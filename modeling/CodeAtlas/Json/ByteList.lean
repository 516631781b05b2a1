import CodeAtlas.Json.Parser
import CodeAtlas.Json.Record
import CodeAtlas.Text.Cut

/-!
# Lists of bytes in JSON text

A reader that wants a certain number of bytes takes them one by one from the text of a list. It then
tries to read one more, which would be one too many, and when the try fails, the list has to end
where the try has stopped. So one item that is no byte is passed over, and so is a comma with
nothing behind it. `tried` says where a try stops in an item that is not written as JSON has it.
-/

namespace CodeAtlas.Json

open Text

/-- The text behind a character with white space in front. -/
def behind (c : Char) (text : List Char) : Option (List Char) :=
  match skipBlank text with
  | first :: rest => if first = c then some rest else none
  | [] => none

/-- A byte with white space in front, and the text behind it. -/
def readByte (text : List Char) : Option (UInt8 × List Char) := do
  let (value, rest) ← readNumber (skipBlank text)
  return (UInt8.ofNat (← toNat? 256 value), rest)

/-- A number of bytes with commas between them, and the text behind them. -/
def readBytes : Nat → List Char → Option (List UInt8 × List Char)
  | 0, text => some ([], text)
  | 1, text => (readByte text).map fun (byte, rest) => ([byte], rest)
  | count + 2, text => do
    let (byte, rest) ← readByte text
    let (bytes, rest) ← readBytes (count + 1) (← behind ',' rest)
    return (byte :: bytes, rest)

/-- As many bytes are read as are wanted. -/
theorem length_of_readBytes {count : Nat} {text rest : List Char} {bytes : List UInt8}
    (h : readBytes count text = some (bytes, rest)) : bytes.length = count := by
  fun_induction readBytes count text generalizing bytes rest with
  | case1 => simp_all
  | case2 text =>
    obtain ⟨⟨byte, behind⟩, _, same⟩ := Option.map_eq_some_iff.1 h
    simp [← (Prod.mk.inj same).1]
  | case3 count text ih =>
    simp only [Option.bind_eq_bind, Option.bind_eq_some_iff, Option.pure_def, Option.some.injEq,
      Prod.mk.injEq] at h
    obtain ⟨_, _, _, _, ⟨others, others_rest⟩, found, same, _⟩ := h
    have shorter := ih _ found
    simp [← same, shorter]

/-! ## Where a try stops -/

/-- The text behind its first character. A character of more than one byte is not passed over. -/
def dropByte : List Char → List Char
  | [] => []
  | c :: rest => if c.toNat < 0x80 then rest else c :: rest

/-- The text behind a word, or behind the first character that is not that of the word. -/
def afterWord : List Char → List Char → List Char
  | expected :: word, c :: rest =>
    if c = expected then afterWord word rest else dropByte (c :: rest)
  | _, text => text

/-- The text behind the digits in front. -/
def afterDigits (text : List Char) : List Char :=
  text.dropWhile Char.isDigit

/-- The text behind the digits of an exponent that is `exponent` so far, or behind the digit with
which it does not fit into 32 bits any more. -/
def afterBounded (exponent : Nat) : List Char → List Char
  | [] => []
  | c :: rest =>
    if c.isDigit then
      let exponent := 10 * exponent + (c.toNat - '0'.toNat)
      if Nat.pow 2 31 ≤ exponent then rest else afterBounded exponent rest
    else c :: rest

/-- The text behind a sign, if there is one, and digits. A character that stands in place of the
first digit is passed over. The digits are bounded where the number would become too large, and not
where it is zero or becomes small. -/
def afterExponent (isZero : Bool) (text : List Char) : List Char :=
  let (bounded, digits) :=
    match text with
    | '+' :: rest => (!isZero, rest)
    | '-' :: rest => (false, rest)
    | _ => (!isZero, text)
  if (someDigits digits).isNone then dropByte digits
  else if bounded then afterBounded 0 digits
  else afterDigits digits

/-- The text behind an exponent, if there is one. -/
def afterScale (isZero : Bool) : List Char → List Char
  | 'e' :: rest => afterExponent isZero rest
  | 'E' :: rest => afterExponent isZero rest
  | text => text

/-- The text behind a fraction and an exponent, if there are any. -/
def afterFraction (isZero : Bool) : List Char → List Char
  | '.' :: rest =>
    if (someDigits rest).isSome then
      afterScale (isZero && (rest.takeWhile Char.isDigit).all (· = '0')) (afterDigits rest)
    else rest
  | text => afterScale isZero text

/-- The text behind a number without its sign. A character that stands in place of the first digit
is passed over, and behind a zero there are no more digits. -/
def afterNumber : List Char → List Char
  | '0' :: rest => if (someDigits rest).isSome then rest else afterFraction true rest
  | text =>
    if (someDigits text).isSome then afterFraction false (afterDigits text) else dropByte text

/-- The text behind four bytes, and none if these end within a character. -/
def afterFour (text : List Char) : List Char :=
  match cutBytes 4 text with
  | some (_, rest) => rest
  | none => []

/-- The text behind the closing quote of a string, or behind the first thing in it that is wrong. -/
def afterString : List Char → List Char
  | [] => []
  | '"' :: rest => rest
  | '\\' :: 'u' :: a :: b :: c :: d :: rest =>
    match hexUnit a b c d with
    | none => afterFour (a :: b :: c :: d :: rest)
    | some unit =>
      if 0xdc00 ≤ unit ∧ unit ≤ 0xdfff then rest
      else if 0xd800 ≤ unit ∧ unit ≤ 0xdbff then
        match rest with
        | '\\' :: 'u' :: e :: f :: g :: h :: more =>
          match hexUnit e f g h with
          | none => afterFour (e :: f :: g :: h :: more)
          | some low => if 0xdc00 ≤ low ∧ low ≤ 0xdfff then afterString more else more
        | '\\' :: 'u' :: more => afterFour more
        | '\\' :: more => dropByte more
        | more => dropByte more
      else afterString rest
  | '\\' :: 'u' :: rest => afterFour rest
  | '\\' :: c :: rest =>
    if (shortEscape c).isSome then afterString rest else dropByte (c :: rest)
  | c :: rest => if c.toNat < 0x20 then rest else afterString rest

/-- The text from where a try to read a byte stops, when it fails. -/
def tried (text : List Char) : List Char :=
  match text with
  | 'n' :: rest => afterWord "ull".toList rest
  | 't' :: rest => afterWord "rue".toList rest
  | 'f' :: rest => afterWord "alse".toList rest
  | '"' :: rest => afterString rest
  | '-' :: rest => afterNumber rest
  | c :: _ => if c.isDigit then afterNumber text else text
  | [] => []

/-- The text behind the end of a list of which all bytes are read. -/
def endBytes (text : List Char) : Option (List Char) :=
  match skipBlank text with
  | ']' :: rest => some rest
  | ',' :: rest =>
    match skipBlank rest with
    | ']' :: rest => some rest
    | rest => if (readByte rest).isSome then none else behind ']' (tried rest)
  | _ => none

end CodeAtlas.Json
