import CodeAtlas.Json
import CodeAtlas.Text.Hex

/-!
# Reading JSON text

`Json.ofText` reads a text that holds one value and white space around it, as RFC 8259 has it. The
value stands at the front of the text, so every reader returns what it read and the text behind.
The readers of nested values call each other with one unit of fuel less. A list or an object takes
two units, no more than it has brackets, and each item behind the first takes one, which its comma
pays for. So one unit more than there are characters is always enough.
-/

namespace CodeAtlas.Json

open Text

/-- The text behind the white space in front. -/
def skipBlank (text : List Char) : List Char :=
  text.dropWhile fun c => c = ' ' || c = '\t' || c = '\n' || c = '\r'

/-! ## Strings -/

/-- The value of four hexadecimal digits. -/
def hexUnit (a b c d : Char) : Option Nat := do
  let a ← hexValue a.toNat
  let b ← hexValue b.toNat
  let c ← hexValue c.toNat
  let d ← hexValue d.toNat
  return ((a * 16 + b) * 16 + c) * 16 + d

/-- What a backslash and one letter stand for. -/
def shortEscape : Char → Option Char
  | '"' => some '"'
  | '\\' => some '\\'
  | '/' => some '/'
  | 'b' => some '\x08'
  | 'f' => some '\x0c'
  | 'n' => some '\n'
  | 'r' => some '\r'
  | 't' => some '\t'
  | _ => none

/-- The code points of a string up to its closing quote, and the text behind the quote. The ones
read so far are given in reverse. An escape by number gives its number, which may be half of a
surrogate pair. -/
def codePoints (before : List Nat) : List Char → Option (List Nat × List Char)
  | [] => none
  | '"' :: rest => some (before.reverse, rest)
  | '\\' :: 'u' :: a :: b :: c :: d :: rest =>
    match hexUnit a b c d with
    | some unit => codePoints (unit :: before) rest
    | none => none
  | '\\' :: c :: rest =>
    match shortEscape c with
    | some point => codePoints (point.toNat :: before) rest
    | none => none
  | c :: rest => if c.toNat < 0x20 then none else codePoints (c.toNat :: before) rest

/-- The characters of a list of code points in which two halves of a surrogate pair stand for one
character, or `none` when a half stands alone. The characters so far are given in reverse. -/
def pairHalves (before : List Char) : List Nat → Option (List Char)
  | [] => some before.reverse
  | [point] =>
    if 0xd800 ≤ point ∧ point ≤ 0xdfff then none
    else some (Char.ofNat point :: before).reverse
  | high :: low :: rest =>
    if 0xd800 ≤ high ∧ high ≤ 0xdbff then
      if 0xdc00 ≤ low ∧ low ≤ 0xdfff then
        pairHalves (Char.ofNat (0x10000 + (high - 0xd800) * 0x400 + (low - 0xdc00)) :: before) rest
      else none
    else if 0xdc00 ≤ high ∧ high ≤ 0xdfff then none
    else pairHalves (Char.ofNat high :: before) (low :: rest)

/-- A string behind its opening quote. -/
def readString (text : List Char) : Option (JsonText × List Char) :=
  (codePoints [] text).map fun (points, rest) => ((pairHalves [] points).map String.ofList, rest)

/-! ## Numbers -/

/-- The digits in front, of which there is at least one. -/
def someDigits (text : List Char) : Option (List Char × List Char) :=
  match text.takeWhile Char.isDigit with
  | [] => none
  | digits => some (digits, text.dropWhile Char.isDigit)

/-- The digits in front of a point or an exponent: a zero, or digits of which the first is none. -/
def wholePart : List Char → Option (List Char × List Char)
  | '0' :: rest => some (['0'], rest)
  | text => someDigits text

/-- A point and digits, if there is a point. -/
def fractionPart : List Char → Option (List Char × List Char)
  | '.' :: rest => (someDigits rest).map fun (digits, rest) => ('.' :: digits, rest)
  | text => some ([], text)

/-- The digits of an exponent, with an optional sign. -/
def signedExponent : List Char → Option (List Char × List Char)
  | '+' :: rest => (someDigits rest).map fun (digits, rest) => ('+' :: digits, rest)
  | '-' :: rest => (someDigits rest).map fun (digits, rest) => ('-' :: digits, rest)
  | text => someDigits text

/-- An exponent, if there is one. -/
def exponentPart : List Char → Option (List Char × List Char)
  | 'e' :: rest => (signedExponent rest).map fun (digits, rest) => ('e' :: digits, rest)
  | 'E' :: rest => (signedExponent rest).map fun (digits, rest) => ('E' :: digits, rest)
  | text => some ([], text)

/-- A number without its sign. -/
def unsignedNumber (text : List Char) : Option (List Char × List Char) := do
  let (whole, rest) ← wholePart text
  let (fraction, rest) ← fractionPart rest
  let (exponent, rest) ← exponentPart rest
  return (whole ++ fraction ++ exponent, rest)

/-- A number by its literal. -/
def readNumber : List Char → Option (Json × List Char)
  | '-' :: rest =>
    (unsignedNumber rest).map fun (literal, rest) => (number (String.ofList ('-' :: literal)), rest)
  | text => (unsignedNumber text).map fun (literal, rest) => (number (String.ofList literal), rest)

/-! ## Values -/

mutual

/-- A value with white space in front. -/
def readValue : Nat → List Char → Option (Json × List Char)
  | 0, _ => none
  | fuel + 1, text =>
    match skipBlank text with
    | 'n' :: 'u' :: 'l' :: 'l' :: rest => some (null, rest)
    | 't' :: 'r' :: 'u' :: 'e' :: rest => some (bool true, rest)
    | 'f' :: 'a' :: 'l' :: 's' :: 'e' :: rest => some (bool false, rest)
    | '"' :: rest => (readString rest).map fun (text, rest) => (string text, rest)
    | '[' :: rest =>
      match skipBlank rest with
      | ']' :: rest => some (array [], rest)
      | rest => (readItems fuel [] rest).map fun (items, rest) => (array items, rest)
    | '{' :: rest =>
      match skipBlank rest with
      | '}' :: rest => some (object [], rest)
      | rest => (readMembers fuel [] rest).map fun (members, rest) => (object members, rest)
    | text => readNumber text

/-- The items of a list up to its end, of which there is at least one more. Those read so far are
given in reverse. -/
def readItems : Nat → List Json → List Char → Option (List Json × List Char)
  | 0, _, _ => none
  | fuel + 1, before, text => do
    let (item, rest) ← readValue fuel text
    match skipBlank rest with
    | ']' :: rest => return ((item :: before).reverse, rest)
    | ',' :: rest => readItems fuel (item :: before) rest
    | _ => none

/-- The members of an object up to its end, of which there is at least one more. Those read so far
are given in reverse. -/
def readMembers :
    Nat → List (JsonText × Json) → List Char → Option (List (JsonText × Json) × List Char)
  | 0, _, _ => none
  | fuel + 1, before, text =>
    match skipBlank text with
    | '"' :: rest => do
      let (name, rest) ← readString rest
      match skipBlank rest with
      | ':' :: rest =>
        let (value, rest) ← readValue fuel rest
        match skipBlank rest with
        | '}' :: rest => return (((name, value) :: before).reverse, rest)
        | ',' :: rest => readMembers fuel ((name, value) :: before) rest
        | _ => none
      | _ => none
    | _ => none

end

/-- The value that a text holds. -/
def ofText (text : String) : Option Json :=
  let chars := text.toList
  match readValue (chars.length + 1) chars with
  | some (value, rest) => if skipBlank rest = [] then some value else none
  | none => none

end CodeAtlas.Json
