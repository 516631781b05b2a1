import CodeAtlas.Address
import CodeAtlas.Address.Keccak
import CodeAtlas.Text.Blank
import CodeAtlas.Text.Hex
import CodeAtlas.Text.Numeral
import CodeAtlas.Text.Quoted

/-!
# Code addresses as text

An account address is written as `0x` and forty hexadecimal digits whose letter case is a checksum:
a letter is a capital where the digit at its place in the Keccak-256 hash of the lower-case digits
is eight or more (EIP-55). Creation code is written as a label that names the step.
`CodeAddress.ofText` reads both forms, with white space around them. It takes the digits of an
address in any letter case and does not verify the checksum, and what carries the label of a
creation is never an account address.
-/

namespace CodeAtlas

open Text

/-! ## Account addresses -/

/-- A digit of an address, as a capital when the hash digit at its place is eight or more. -/
def checksumDigit (c : Char) (hashDigit : Nat) : Char :=
  if 8 ≤ hashDigit then c.toUpper else c

/-- The digits of a byte list, the high half of each byte first. -/
def halves (bytes : List UInt8) : List Nat :=
  bytes.flatMap fun byte => [byte.toNat / 16, byte.toNat % 16]

namespace Address

/-- The forty digits in lower case. -/
def hexDigits (address : Address) : List Char :=
  toHex address.bytes

/-- The forty digits in the letter case of the checksum. -/
def checksumDigits (address : Address) : List Char :=
  let plain := address.hexDigits
  List.zipWith checksumDigit plain (halves (Keccak.hash (utf8 plain)))

/-- The address behind its marker, with the checksum. -/
def display (address : Address) : String :=
  String.ofList ('0' :: 'x' :: address.checksumDigits)

/-- What is wrong with a text that should be twenty bytes in hexadecimal. -/
inductive Fault
  /-- The text, marker included, has an odd number of bytes in UTF-8. -/
  | oddLength
  /-- The text behind the marker has not forty bytes. -/
  | wrongLength
  /-- A byte behind the marker is no digit. It is shown as the character with its number. -/
  | invalidCharacter (shown : Char) (position : Nat)
  deriving DecidableEq, Repr

/-- The wording of a fault. -/
def Fault.message : Fault → String
  | .oddLength => "odd number of digits"
  | .wrongLength => "invalid string length"
  | .invalidCharacter shown position =>
    "invalid character " ++ quotedChar shown ++ " at position " ++ decimal position

/-- The first of the bytes that is no hexadecimal digit, with its position. -/
def firstNonDigit (bytes : List UInt8) : Option (UInt8 × Nat) :=
  bytes.zipIdx.find? fun (byte, _) => (hexValue byte.toNat).isNone

/-- Reads twenty bytes in hexadecimal, with an optional marker. -/
def ofHexText (text : List Char) : Except Fault Address :=
  let digitBytes := utf8 (withoutMarker text)
  -- The parity is that of the whole text, the length that of the digits alone.
  if (utf8 text).length % 2 = 1 then .error .oddLength
  else if digitBytes.length ≠ 40 then .error .wrongLength
  else
    match firstNonDigit digitBytes with
    | some (byte, position) => .error (.invalidCharacter (Char.ofNat byte.toNat) position)
    | none =>
      -- Forty digits are twenty bytes, so neither of the other two cases arises.
      match ofHex digitBytes with
      | some bytes =>
        if h : bytes.length = 20 then .ok ⟨bytes, h⟩ else .error .wrongLength
      | none => .error .wrongLength

end Address

/-! ## Labels of creations -/

namespace CodeAddress

/-- What stands in front of the step in the label of a creation. -/
def labelStart : List Char := "(Contract Creation - Step ".toList

/-- What stands behind the step in the label of a creation. -/
def labelEnd : List Char := ")".toList

/-- The text that names a code address. -/
def display : CodeAddress → String
  | deployed address => address.display
  | creation step => String.ofList (labelStart ++ digits step.toNat ++ labelEnd)

/-- Why a text names no code address. -/
inductive Fault
  /-- The label of a creation carries no step. -/
  | step (fault : NumeralFault)
  /-- The text has not the label of a creation and is no account address either. -/
  | address (text : List Char) (fault : Address.Fault)
  deriving DecidableEq, Repr

/-- The wording of a fault. -/
def Fault.message : Fault → String
  | .step fault => "invalid creation step: " ++ fault.message
  | .address text fault => "invalid code address " ++ quoted text ++ ": " ++ fault.message

/-- The text between the two parts of a creation's label, if it stands between them. -/
def labelled? (text : List Char) : Option (List Char) :=
  if labelStart.isPrefixOf text then
    let rest := text.drop labelStart.length
    if labelEnd.isSuffixOf rest then some (rest.take (rest.length - labelEnd.length)) else none
  else none

/-- Reads a code address. -/
def ofText (text : String) : Except Fault CodeAddress :=
  let trimmed := trim text.toList
  match labelled? trimmed with
  -- A label decides: without a step in it the text is nothing else.
  | some inner =>
    match readNatural UInt64.size (trim inner) with
    | .ok step => .ok (creation (UInt64.ofNat step))
    | .error fault => .error (.step fault)
  | none =>
    match Address.ofHexText trimmed with
    | .ok address => .ok (deployed address)
    | .error fault => .error (.address trimmed fault)

end CodeAddress

end CodeAtlas
