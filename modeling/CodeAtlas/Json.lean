import CodeAtlas.Text.Numeral

/-!
# JSON values

A value as its text gives it. Numbers keep their literal, since the readers of a value decide which
literals they take. Objects keep their members in order, also two of one name. A string denotes a
text unless it escapes half of a surrogate pair, and then it may still stand where nobody reads it.
-/

namespace CodeAtlas

/-- What a JSON string denotes, `none` when it escapes half of a surrogate pair. -/
abbrev JsonText := Option String

/-- A JSON value. -/
inductive Json where
  /-- No value. -/
  | null
  /-- A truth value. -/
  | bool (value : Bool)
  /-- A number by its literal. -/
  | number (literal : String)
  /-- A string. -/
  | string (text : JsonText)
  /-- A list of values. -/
  | array (items : List Json)
  /-- A list of named values. -/
  | object (members : List (JsonText × Json))
  deriving Inhabited

namespace Json

/-- The number `n`. -/
def ofNat (n : Nat) : Json :=
  number (Text.decimal n)

/-- The number `n`. -/
def ofInt (n : Int) : Json :=
  number (String.ofList (Text.signedDigits n))

/-- The string that denotes a text. -/
def ofString (text : String) : Json :=
  string (some text)

/-- The object with the given members. -/
def ofMembers (members : List (String × Json)) : Json :=
  object (members.map fun (name, value) => (some name, value))

/-- The value of the last member with a name in an object. -/
def find? (name : String) : Json → Option Json
  | object members => members.reverse.lookup (some name)
  | _ => none

/-! ## Objects without repeated names -/

mutual

/-- The value in which every object has each name once. Of several members with one name the last
one is kept. -/
def withoutRepeats : Json → Json
  | array items => array (itemsWithoutRepeats [] items)
  | object members => object (membersWithoutRepeats [] members)
  | value => value

/-- Items without repeated names, behind those that are given in reverse. -/
def itemsWithoutRepeats (before : List Json) : List Json → List Json
  | [] => before.reverse
  | item :: items => itemsWithoutRepeats (item.withoutRepeats :: before) items

/-- The last member of each name, behind the members that are given in reverse. -/
def membersWithoutRepeats (before : List (JsonText × Json)) :
    List (JsonText × Json) → List (JsonText × Json)
  | [] => before.reverse
  | (name, value) :: members =>
    if members.any fun member => member.1 = name then membersWithoutRepeats before members
    else membersWithoutRepeats ((name, value.withoutRepeats) :: before) members

end

end Json

end CodeAtlas
