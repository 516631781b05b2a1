import CodeAtlas.Json
import CodeAtlas.Text.Numeral

/-!
# Records as JSON values

A record is written as an object with a member for each field. It is read from such an object, in
which members with other names do not matter and no field may come twice, or from the list of its
fields in the order of their declaration. `fieldsOf` gives the value found for each field, and the
readers of the single fields say which values they take. A number is taken only as an integer
literal, so that neither `2.0` nor `-0` is one.
-/

namespace CodeAtlas.Json

open Text

/-- Whether every member has a name that is a text. -/
def namesAreTexts (members : List (JsonText × Json)) : Bool :=
  members.all fun member => member.1.isSome

/-- The values of the members with a name. -/
def membersNamed (name : String) (members : List (JsonText × Json)) : List Json :=
  (members.filter fun member => member.1 = some name).map (·.2)

/-- The values found for the fields of a record with the given names, or `none` when the value is
not written like a record with these fields. -/
def fieldsOf (names : List String) : Json → Option (List (Option Json))
  | array items =>
    if items.length ≤ names.length then
      some ((List.range names.length).map fun i => items[i]?)
    else none
  | object members =>
    if namesAreTexts members ∧ names.all fun name => (membersNamed name members).length ≤ 1 then
      some (names.map fun name => (membersNamed name members).head?)
    else none
  | _ => none

/-- A number below a limit. -/
def toNat? (limit : Nat) : Json → Option Nat
  | number literal =>
    match literal.toList with
    | [] => none
    | text => if text.all Char.isDigit then (readNatural limit text).toOption else none
  | _ => none

/-- A number from `-limit` to `limit - 1`. -/
def toInt? (limit : Nat) : Json → Option Int
  | number literal =>
    match literal.toList with
    | ['-', '0'] => none
    | text =>
      if text.all fun c => c.isDigit || c = '-' then readInteger limit text else none
  | _ => none

/-- A truth value. -/
def toBool? : Json → Option Bool
  | bool value => some value
  | _ => none

/-- A text. -/
def toText? : Json → Option String
  | string text => text
  | _ => none

/-- A list of values that a reader takes each. -/
def toList? {α : Type} (read : Json → Option α) : Json → Option (List α)
  | array items => items.mapM read
  | _ => none

/-- A field that has to be there. -/
def required {α : Type} (read : Json → Option α) : Option Json → Option α
  | some value => read value
  | none => none

/-- A field that has a value when it is not there. -/
def defaulted {α : Type} (default : α) (read : Json → Option α) : Option Json → Option α
  | some value => read value
  | none => some default

/-- A value that may be absent, which `null` says. -/
def nullable {α : Type} (read : Json → Option α) : Json → Option (Option α)
  | null => some none
  | value => (read value).map some

end CodeAtlas.Json
