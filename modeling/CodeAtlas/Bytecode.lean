import CodeAtlas.Json
import CodeAtlas.Text.Hex

/-!
# Compiled bytecode

What the compiler emits for one piece of code: the code itself, where parts of it are filled in
later, its source map, and the sources the compiler generated for it. The code is plain when it is
given as hexadecimal text. With libraries that are not linked yet, the text has a placeholder of
forty characters for the address of each library, and it is kept as it is.
-/

namespace CodeAtlas

/-- The bytes of a code from `start` up to `stop`, which is not included. -/
structure CodeRange where
  /-- The first byte. -/
  start : Nat
  /-- The byte behind the last. -/
  stop : Nat
  deriving DecidableEq, Repr

/-- Whether a position lies in a range. -/
def CodeRange.covers (range : CodeRange) (position : Nat) : Bool :=
  range.start ≤ position && position < range.stop

/-- Where a part of a code is filled in later, as the compiler gives it. -/
structure Offsets where
  /-- The first byte. -/
  start : UInt32
  /-- The number of bytes. -/
  length : UInt32
  deriving DecidableEq, Repr

/-- The range of a part. No sum of two 32-bit words is too large for an offset. -/
def Offsets.range (offsets : Offsets) : CodeRange :=
  ⟨offsets.start.toNat, offsets.start.toNat + offsets.length.toNat⟩

/-- The code of a compiled contract. -/
inductive CodeObject
  /-- Bytes. -/
  | plain (bytes : List UInt8)
  /-- Text with placeholders, or anything else that is no hexadecimal text. -/
  | unlinked (text : List Char)
  deriving DecidableEq, Repr

/-- A text without one marker `0x` in front. -/
def withoutLowerMarker : List Char → List Char
  | '0' :: 'x' :: rest => rest
  | text => text

/-- The code that a text stands for. Every text stands for one: what cannot be read as hexadecimal
digits, behind an optional marker, is kept without a marker `0x`. -/
def CodeObject.ofText (text : String) : CodeObject :=
  match Text.ofHex (Text.utf8 (Text.withoutMarker text.toList)) with
  | some bytes => plain bytes
  | none => unlinked (withoutLowerMarker text.toList)

/-- A source that the compiler generated. -/
structure GeneratedSource where
  /-- The index by which a source map refers to it. -/
  id : UInt32
  /-- Its name. -/
  name : String
  /-- The language it is written in. -/
  language : String
  /-- Its text. -/
  contents : String
  /-- Its syntax tree. -/
  ast : Json

/-- The output of the compiler for one piece of code. -/
structure Bytecode where
  /-- The code. -/
  object : CodeObject
  /-- The written source map, if there is one. -/
  sourceMap : Option String
  /-- The sources generated for the code. -/
  generated : List GeneratedSource
  /-- Where the addresses of libraries go, in the order of files and libraries. -/
  linkReferences : List CodeRange

end CodeAtlas
