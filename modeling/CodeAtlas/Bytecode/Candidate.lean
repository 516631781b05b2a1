import CodeAtlas.Bytecode

/-!
# Candidate code

The code of a compiled contract as it is compared with running code: its bytes, in which unfilled
parts are zero, and where these parts are. `Candidate.ofBytecode` reads it. An unlinked text is
taken apart into pairs of hexadecimal digits and placeholders (`decodeUnlinked`), and the metadata
section that the compiler appends is found from the end of the code (`metadataRange`).
-/

namespace CodeAtlas

/-- Code to compare with. -/
structure Candidate where
  /-- The bytes, zero where a library address is missing. -/
  code : List UInt8
  /-- Where library addresses go: placeholders first, then the references to libraries. -/
  linkReferences : List CodeRange
  /-- Where the values of immutable variables go. -/
  immutables : List CodeRange
  /-- The metadata section at the end, if there is one. -/
  metadata : Option CodeRange
  deriving DecidableEq, Repr

/-! ## Unlinked text -/

/-- The number of bytes in an address. -/
def addressLength : Nat := 20

/-- The byte that starts a placeholder: the ASCII code of the underscore. -/
def underscore : UInt8 := 0x5f

/-- The value of two hexadecimal digits in ASCII, of which the first may be a plus sign. -/
def pairValue (first second : UInt8) : Option UInt8 :=
  if first = 0x2b then
    (Text.hexValue second.toNat).map UInt8.ofNat
  else do
    let high ← Text.hexValue first.toNat
    let low ← Text.hexValue second.toNat
    return UInt8.ofNat (16 * high + low)

/-- The code of a text of pairs and placeholders, with the ranges of the placeholders. The code in
front has `position` bytes. A placeholder takes twice as many characters as an address has bytes,
and only its first character matters. -/
def decodeBlocks (position : Nat) (text : List UInt8) : Option (List UInt8 × List CodeRange) :=
  match text with
  | [] => some ([], [])
  | first :: rest =>
    if first = underscore then
      -- A placeholder: an address that is not known yet.
      if 2 * addressLength ≤ text.length then do
        let (code, ranges) ←
          decodeBlocks (position + addressLength) (rest.drop (2 * addressLength - 1))
        return (List.replicate addressLength 0 ++ code,
          ⟨position, position + addressLength⟩ :: ranges)
      else none
    else
      -- A pair of digits: one byte.
      match rest with
      | [] => none
      | second :: rest => do
        let byte ← pairValue first second
        let (code, ranges) ← decodeBlocks (position + 1) rest
        return (byte :: code, ranges)
termination_by text.length
decreasing_by
  · simp only [List.length_drop, List.length_cons]
    omega
  · simp only [List.length_cons]
    omega

/-- The code of an unlinked text, with the ranges of its placeholders. -/
def decodeUnlinked (text : List Char) : Option (List UInt8 × List CodeRange) :=
  decodeBlocks 0 (Text.utf8 (withoutLowerMarker text))

/-! ## The metadata section -/

/-- Whether a byte is there and starts a map of one to five entries in the metadata encoding. -/
def startsMap : Option UInt8 → Bool
  | some byte => 0xa1 ≤ byte && byte ≤ 0xa5
  | none => false

/-- The metadata section at the end of a code. The last two bytes are the length of the rest of the
section, the high byte first, which is a map and not empty. -/
def metadataRange (code : List UInt8) : Option CodeRange :=
  match code.reverse with
  | low :: high :: _ =>
    let length := 256 * high.toNat + low.toNat
    let start := code.length - (length + 2)
    if 0 < length ∧ length + 2 ≤ code.length ∧ startsMap code[start]? then
      some ⟨start, code.length⟩
    else none
  | _ => none

/-- The bytes of a range, if the code reaches its end. -/
def slice (code : List UInt8) (range : CodeRange) : Option (List UInt8) :=
  if range.start ≤ range.stop ∧ range.stop ≤ code.length then
    some ((code.take range.stop).drop range.start)
  else none

/-- Whether running code has a metadata section where the code of a candidate has one: it repeats
the two length bytes and has the start of a map. -/
def hasMetadataAt (running code : List UInt8) (range : CodeRange) : Bool :=
  let lengthBytes : CodeRange := ⟨range.stop - 2, range.stop⟩
  startsMap running[range.start]? &&
    match slice running lengthBytes with
    | some found => slice code lengthBytes == some found
    | none => false

/-! ## Candidates from bytecode -/

/-- The candidate of compiled bytecode and its immutable ranges, or `none` when the object is no
code. -/
def Candidate.ofBytecode (bytecode : Bytecode) (immutables : List CodeRange) : Option Candidate :=
  match bytecode.object with
  | .plain bytes => some ⟨bytes, bytecode.linkReferences, immutables, metadataRange bytes⟩
  | .unlinked text =>
    (decodeUnlinked text).map fun (code, placeholders) =>
      ⟨code, placeholders ++ bytecode.linkReferences, immutables, metadataRange code⟩

end CodeAtlas
