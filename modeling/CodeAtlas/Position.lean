import CodeAtlas.SourceMap
import CodeAtlas.Text.Hex

/-!
# Lines and columns

Source maps speak of byte offsets, and editors of lines and columns. Both count from zero, and a
column is counted in bytes from the start of its line. A line break is the byte `0x0a` and belongs
to the line it ends. `lineBreaks` lists the offsets of the breaks of a text, and `lineColumn` finds
the line and column of an offset from them. Offsets past the end of the text lie on its last line.
-/

namespace CodeAtlas

/-- A range of bytes in a source file. -/
structure RawLocation where
  /-- The offset at which it starts. -/
  start : UInt64
  /-- The number of its bytes. -/
  length : UInt64
  deriving DecidableEq, Repr

namespace RawLocation

/-- The empty range at an offset. -/
def atOffset (offset : UInt64) : RawLocation :=
  ⟨offset, 0⟩

/-- The range of an entry. -/
def ofEntry (e : Entry) : RawLocation :=
  ⟨e.start, e.length⟩

/-- The offset behind the range, capped at the largest offset. -/
def stop (location : RawLocation) : Nat :=
  min (location.start.toNat + location.length.toNat) maxOffset

end RawLocation

/-- A line and a column. -/
structure LineColumn where
  /-- The number of lines before. -/
  line : Nat
  /-- The number of bytes before on the line. -/
  column : Nat
  deriving DecidableEq, Repr

/-- The lines and columns of both ends of a range. -/
structure LineColumnRange where
  /-- Where the range starts. -/
  start : LineColumn
  /-- Where the byte behind the range is. -/
  stop : LineColumn
  deriving DecidableEq, Repr

/-- The offsets of the line breaks among bytes of which the first has the offset `offset`. -/
def lineBreaksFrom (offset : Nat) : List UInt8 → List Nat
  | [] => []
  | byte :: rest =>
    if byte = 0x0a then offset :: lineBreaksFrom (offset + 1) rest
    else lineBreaksFrom (offset + 1) rest

/-- The offsets of the line breaks of a text, in ascending order. -/
def lineBreaks (text : String) : List Nat :=
  lineBreaksFrom 0 (Text.utf8 text.toList)

/-- The offset at which a line starts: one past the break before it. -/
def lineStart (breaks : List Nat) (line : Nat) : Nat :=
  match line with
  | 0 => 0
  | line + 1 => breaks.getD line 0 + 1

/-- The line and column of an offset, given the line breaks in ascending order. -/
def lineColumn (breaks : List Nat) (offset : Nat) : LineColumn :=
  let line := (breaks.takeWhile (· < offset)).length
  ⟨line, offset - lineStart breaks line⟩

/-- The lines and columns of both ends of a range. -/
def lineColumnRange (breaks : List Nat) (location : RawLocation) : LineColumnRange :=
  ⟨lineColumn breaks location.start.toNat, lineColumn breaks location.stop⟩

end CodeAtlas
