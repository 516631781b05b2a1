import CodeAtlas.Json
import CodeAtlas.Text.Hex

/-!
# Writing JSON text

`Json.toText` writes a value without white space. The text is in ASCII: a character beyond it is
escaped by the one or two units of 16 bits that it has in UTF-16. Each writer puts its part behind a
text that is given.
-/

namespace CodeAtlas.Json

open Text

/-! ## Strings -/

/-- A text with the escape of a unit of 16 bits behind it. -/
def writeUnit (before : String) (unit : Nat) : String :=
  [unit / 0x1000, unit / 0x100 % 16, unit / 16 % 16, unit % 16].foldl
    (fun text value => text.push (hexDigit value)) ((before.push '\\').push 'u')

/-- A text with a character of a string behind it. -/
def writeChar (before : String) (c : Char) : String :=
  let n := c.toNat
  if c = '"' ∨ c = '\\' then (before.push '\\').push c
  else if 0x20 ≤ n ∧ n < 0x7f then before.push c
  else if n < 0x10000 then writeUnit before n
  else
    writeUnit (writeUnit before (0xd800 + (n - 0x10000) / 0x400)) (0xdc00 + (n - 0x10000) % 0x400)

/-- A text with a string in quotes behind it. What escapes half of a surrogate pair has no text and
is written as if it were empty. -/
def writeString (before : String) (text : JsonText) : String :=
  ((text.getD "").toList.foldl writeChar (before.push '"')).push '"'

/-! ## Values -/

mutual

/-- A text with a value behind it. -/
def write (before : String) : Json → String
  | null => before ++ "null"
  | bool true => before ++ "true"
  | bool false => before ++ "false"
  | number literal => before ++ literal
  | string text => writeString before text
  | array items => (writeItems (before.push '[') true items).push ']'
  | object members => (writeMembers (before.push '\x7b') true members).push '\x7d'

/-- A text with items behind it, which commas separate. -/
def writeItems (before : String) (isFirst : Bool) : List Json → String
  | [] => before
  | item :: items =>
    writeItems (write (if isFirst then before else before.push ',') item) false items

/-- A text with members behind it, which commas separate. -/
def writeMembers (before : String) (isFirst : Bool) : List (JsonText × Json) → String
  | [] => before
  | (name, value) :: members =>
    let named := (writeString (if isFirst then before else before.push ',') name).push ':'
    writeMembers (write named value) false members

end

/-- The text of a value. -/
def toText (value : Json) : String :=
  write "" value

end CodeAtlas.Json
