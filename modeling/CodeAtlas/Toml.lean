/-!
# TOML documents

A document is a table of named values. Its lines build it one after the other, and the rules of
which table a line may still add to are the heart of the format. A table is defined once: by a
header, by braces, or by the dotted keys that lead into it. A header may also lead through tables
that no line has defined, and such a table may still be defined by a header of its own.

`insertKey` adds the value of a dotted key to a table, and `openTable` and `openElement` are the two
kinds of headers.
-/

namespace CodeAtlas.Toml

/-! ## Values -/

/-- How a table came to be. -/
inductive Origin
  /-- A longer header leads through it. -/
  | implied
  /-- A header defines it. -/
  | header
  /-- Dotted keys lead into it. -/
  | dotted
  /-- It is written in braces. -/
  | braces
  deriving DecidableEq, Repr

/-- A value of a document. -/
inductive Value where
  /-- A text. -/
  | text (text : List Char)
  /-- An integer. -/
  | integer (n : Int)
  /-- A number with a fraction or an exponent, or what stands in its place, by its literal. -/
  | float (literal : List Char)
  /-- A number that is written in order and has no value. -/
  | unreadable
  /-- A truth value. -/
  | boolean (value : Bool)
  /-- A date, a time, or both, by its literal. -/
  | dateTime (literal : List Char)
  /-- A list of values. -/
  | array (items : List Value)
  /-- A list of tables, each with a header. -/
  | tables (items : List (List (List Char × Value)))
  /-- A table. -/
  | table (origin : Origin) (members : List (List Char × Value))

/-- The members of a table: names with their values. -/
abbrev Members := List (List Char × Value)

mutual

/-- Whether a value has no number in it that is without a value. -/
def Value.isReadable : Value → Bool
  | .unreadable => false
  | .array items => allReadable items
  | .tables items => allTablesReadable items
  | .table _ members => allMembersReadable members
  | _ => true

/-- Whether all items of a list are readable. -/
def allReadable : List Value → Bool
  | [] => true
  | item :: items => item.isReadable && allReadable items

/-- Whether all members of a table are readable. -/
def allMembersReadable : List (List Char × Value) → Bool
  | [] => true
  | (_, value) :: members => value.isReadable && allMembersReadable members

/-- Whether all tables of a list are readable. -/
def allTablesReadable : List (List (List Char × Value)) → Bool
  | [] => true
  | members :: tables => allMembersReadable members && allTablesReadable tables

end

/-- The value of a name. -/
def find? (name : List Char) (members : Members) : Option Value :=
  members.lookup name

/-- The members with another value for a name they have. -/
def replace (name : List Char) (value : Value) (members : Members) : Members :=
  members.map fun (n, v) => if n = name then (n, value) else (n, v)

/-- Changes the last table of a list. -/
def changeLast (f : Members → Option Members) (tables : List Members) : Option (List Members) :=
  match tables.reverse with
  | [] => none
  | last :: before => (f last).map fun last => (last :: before).reverse

/-! ## Keys -/

/-- Adds a value under a dotted key to the members of a table. `behindDot` says that a dot led into
this table. Behind a dot the last name may only be added to a table that dotted keys have made, so
that no key adds to a table that has a header. -/
def insertKey (behindDot : Bool) (origin : Origin) :
    List (List Char) → Value → Members → Option Members
  | [], _, _ => none
  | [name], value, members =>
    if behindDot && origin ≠ .dotted then none
    else if (find? name members).isSome then none
    else some (members ++ [(name, value)])
  | name :: names, value, members =>
    match find? name members with
    -- The key makes the table it leads into.
    | none => do
      let inner ← insertKey true .dotted names value []
      return members ++ [(name, .table .dotted inner)]
    -- Braces are closed for good, and a header closes its table to dotted keys of other tables.
    | some (.table inner_origin inner) =>
      if inner_origin = .braces ∨ inner_origin = .header then none
      else do
        let inner ← insertKey true inner_origin names value inner
        return replace name (.table inner_origin inner) members
    | some (.tables items) => do
      let items ← changeLast (insertKey true .header names value) items
      return replace name (.tables items) members
    | some _ => none

/-! ## Headers -/

/-- Changes the table that a header leads to. Tables on the way are made where they are missing, and
of a list of tables the last is meant. -/
def changeAt (f : Members → Option Members) : List (List Char) → Members → Option Members
  | [], members => f members
  | name :: names, members =>
    match find? name members with
    | none => do
      let inner ← changeAt f names []
      return members ++ [(name, .table .implied inner)]
    | some (.table origin inner) =>
      -- Braces are closed for good, whatever leads into them.
      if origin = .braces then none
      else do
        let inner ← changeAt f names inner
        return replace name (.table origin inner) members
    | some (.tables items) => do
      let items ← changeLast (changeAt f names) items
      return replace name (.tables items) members
    | some _ => none

/-- Defines a table by a header. -/
def defineTable (name : List Char) (members : Members) : Option Members :=
  match find? name members with
  | none => some (members ++ [(name, .table .header [])])
  -- A longer header came first. Its table is defined only now.
  | some (.table .implied inner) => some (replace name (.table .header inner) members)
  | some _ => none

/-- Adds a table to a list of tables by a header. -/
def addElement (name : List Char) (members : Members) : Option Members :=
  match find? name members with
  | none => some (members ++ [(name, .tables [[]])])
  | some (.tables items) => some (replace name (.tables (items ++ [[]])) members)
  | some _ => none

/-- The document behind a header that defines a table. -/
def openTable (path : List (List Char)) (document : Members) : Option Members :=
  match path.reverse with
  | [] => none
  | name :: before => changeAt (defineTable name) before.reverse document

/-- The document behind a header that adds a table to a list. -/
def openElement (path : List (List Char)) (document : Members) : Option Members :=
  match path.reverse with
  | [] => none
  | name :: before => changeAt (addElement name) before.reverse document

end CodeAtlas.Toml
