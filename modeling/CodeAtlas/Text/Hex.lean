/-!
# Hexadecimal text

Bytes are written as two hexadecimal digits each, the high half first. The digits are read in either
letter case from the bytes of a text in UTF-8 (`utf8`), and they are written in lower case. A text
of digits may start with the marker `0x` or `0X`, which `withoutMarker` removes.
-/

namespace CodeAtlas.Text

/-- The bytes of a text in UTF-8. -/
def utf8 (text : List Char) : List UInt8 :=
  text.flatMap String.utf8EncodeChar

/-- The value of the hexadecimal digit with the given ASCII code. -/
def hexValue (code : Nat) : Option Nat :=
  if 48 ≤ code ∧ code ≤ 57 then some (code - 48)
  else if 97 ≤ code ∧ code ≤ 102 then some (code - 87)
  else if 65 ≤ code ∧ code ≤ 70 then some (code - 55)
  else none

/-- The lower-case digit of a value below sixteen. -/
def hexDigit (value : Nat) : Char :=
  if value < 10 then Char.ofNat (48 + value) else Char.ofNat (87 + value)

/-- The two digits of a byte. -/
def hexPair (byte : UInt8) : List Char :=
  [hexDigit (byte.toNat / 16), hexDigit (byte.toNat % 16)]

/-- The digits of a list of bytes. -/
def toHex (bytes : List UInt8) : List Char :=
  bytes.flatMap hexPair

/-- The bytes whose digits are given in ASCII, or `none` when there are no pairs of digits. -/
def ofHex : List UInt8 → Option (List UInt8)
  | [] => some []
  | [_] => none
  | high :: low :: rest => do
    let h ← hexValue high.toNat
    let l ← hexValue low.toNat
    let bytes ← ofHex rest
    return UInt8.ofNat (16 * h + l) :: bytes

/-- The value of hexadecimal digits. -/
def hexNumber (digits : List Char) : Option Nat :=
  digits.foldlM (fun n c => (hexValue c.toNat).map fun d => 16 * n + d) 0

/-- The character with the code point that hexadecimal digits give. -/
def charOfHex (digits : List Char) : Option Char :=
  (hexNumber digits).bind fun n => if n.isValidChar then some (Char.ofNat n) else none

/-- A text without the marker of hexadecimal digits in front. -/
def withoutMarker : List Char → List Char
  | '0' :: 'x' :: rest => rest
  | '0' :: 'X' :: rest => rest
  | text => text

/-- A digit reads back as its value. -/
theorem hexValue_hexDigit : ∀ value < 16, hexValue (hexDigit value).toNat = some value := by
  decide

/-- A digit is an ASCII character. -/
theorem hexDigit_lt : ∀ value < 16, (hexDigit value).toNat < 256 := by
  decide

/-- A digit is one byte in UTF-8. -/
theorem utf8EncodeChar_hexDigit :
    ∀ value < 16, String.utf8EncodeChar (hexDigit value) = [(hexDigit value).toNat.toUInt8] := by
  decide

/-- The digits of bytes read back as the bytes. -/
theorem ofHex_toHex (bytes : List UInt8) : ofHex (utf8 (toHex bytes)) = some bytes := by
  induction bytes with
  | nil => rfl
  | cons byte rest ih =>
    have small := byte.toNat_lt
    have high := hexValue_hexDigit (byte.toNat / 16) (by omega)
    have low := hexValue_hexDigit (byte.toNat % 16) (by omega)
    have high_byte := utf8EncodeChar_hexDigit (byte.toNat / 16) (by omega)
    have low_byte := utf8EncodeChar_hexDigit (byte.toNat % 16) (by omega)
    have high_small := hexDigit_lt (byte.toNat / 16) (by omega)
    have low_small := hexDigit_lt (byte.toNat % 16) (by omega)
    simp only [toHex, utf8] at ih
    have whole : UInt8.ofNat (16 * (byte.toNat / 16) + byte.toNat % 16) = byte := by
      rw [Nat.div_add_mod, UInt8.ofNat_toNat]
    simp only [toHex, utf8, hexPair, List.flatMap_cons, List.cons_append, List.nil_append,
      high_byte, low_byte, ofHex, UInt8.toNat_ofNat', Nat.toUInt8_eq, Nat.mod_eq_of_lt high_small,
      Nat.mod_eq_of_lt low_small, high, low, ih, Option.bind_eq_bind, Option.bind_some, whole]
    rfl

end CodeAtlas.Text
