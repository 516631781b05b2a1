import CodeAtlas.SourceMap
import CodeAtlas.Text.Fields
import CodeAtlas.Text.Numeral
import CodeAtlas.Text.Quoted

/-!
# Source maps as text

A source map is written as segments separated by semicolons, one for each entry. A segment has up
to five fields separated by colons: the start of the range, its length, the file, the letter of the
jump, and the modifier depth. A field that is empty or left out at the end repeats the value of the
entry before. The first segment has nothing to repeat, so it has to give the start, the length and
the file; its jump is regular and its depth zero when they are not given. The empty text is the map
without entries.

`SourceMap.decode` reads this form, and for a text it refuses it names the first segment at fault
and the first of its fields that is. `SourceMap.encode` writes every field of every entry.
-/

namespace CodeAtlas

open Text

/-! ## Faults -/

/-- The fields of a segment, in order. -/
inductive SegmentField
  /-- The start of the range. -/
  | start
  /-- The length of the range. -/
  | length
  /-- The index of the file. -/
  | file
  /-- The kind of jump. -/
  | jump
  /-- The modifier depth. -/
  | depth
  deriving DecidableEq, Repr

/-- How a complaint about the value of a field names it. -/
def SegmentField.phrase : SegmentField → String
  | .start => "`s` value"
  | .length => "`l` value"
  | .file => "`f` value"
  | .jump => "jump type"
  | .depth => "modifier depth"

/-- The letter of a field in the description of the format. -/
def SegmentField.letter : SegmentField → String
  | .start => "s"
  | .length => "l"
  | .file => "f"
  | .jump => "j"
  | .depth => "m"

/-- Why a segment is refused. -/
inductive SegmentFault
  /-- There are more than five fields. -/
  | tooManyFields (count : Nat)
  /-- A field is not given, and there is no entry before that it could repeat. -/
  | missing (field : SegmentField)
  /-- A field cannot be read. -/
  | invalid (field : SegmentField) (text : List Char)
  deriving DecidableEq, Repr

/-- The wording of a fault. -/
def SegmentFault.message : SegmentFault → String
  | .tooManyFields count => "expected at most 5 fields, found " ++ decimal count
  | .missing field => "first entry does not define `" ++ field.letter ++ "`"
  | .invalid field text => "invalid " ++ field.phrase ++ " " ++ quoted text

/-- A fault of the first segment that has one. -/
structure Malformed where
  /-- The number of segments before it. -/
  segment : Nat
  /-- What is wrong with it. -/
  fault : SegmentFault
  deriving DecidableEq, Repr

/-! ## Reading -/

/-- The index of a file: at least `-1`, which stands for no file, and below `2 ^ 31`. -/
def readFile (text : List Char) : Option Int32 :=
  match readInteger (Nat.pow 2 31) text with
  | some n => if -1 ≤ n then some (Int32.ofInt n) else none
  | none => none

/-- The letter of a jump. -/
def readJump : List Char → Option Jump
  | [c] => Jump.ofLetter c
  | _ => none

/-- One field: its own value when it is given, and else the value `inherited` by it. -/
def readField {α : Type} (field : SegmentField) (read : List Char → Option α)
    (inherited : Option α) (text : List Char) : Except SegmentFault α :=
  if text = [] then
    match inherited with
    | some value => .ok value
    | none => .error (.missing field)
  else
    match read text with
    | some value => .ok value
    | none => .error (.invalid field text)

/-- One segment, read behind the entry `before`. -/
def readSegment (before : Option Entry) (segment : List Char) : Except SegmentFault Entry :=
  let texts := fields ':' segment
  if 5 < texts.length then .error (.tooManyFields texts.length)
  else do
    let start ← readField .start readWord64 (before.map (·.start)) (texts.getD 0 [])
    let length ← readField .length readWord64 (before.map (·.length)) (texts.getD 1 [])
    let file ← readField .file readFile (before.map (·.file)) (texts.getD 2 [])
    -- The last two have a value even where there is nothing to repeat.
    let jump ← readField .jump readJump (some ((before.map (·.jump)).getD .regular))
      (texts.getD 3 [])
    let depth ← readField .depth readWord32 (some ((before.map (·.depth)).getD 0))
      (texts.getD 4 [])
    return { start, length, file, jump, depth }

/-- The segments behind the entry `before`, the first of them being number `index`. -/
def readSegments (before : Option Entry) (index : Nat) :
    List (List Char) → Except Malformed (List Entry)
  | [] => .ok []
  | segment :: rest =>
    match readSegment before segment with
    | .error fault => .error ⟨index, fault⟩
    | .ok entry =>
      match readSegments (some entry) (index + 1) rest with
      | .error malformed => .error malformed
      | .ok entries => .ok (entry :: entries)

/-! ## Writing -/

/-- The text of an entry: all five fields. -/
def Entry.written (e : Entry) : List Char :=
  joined ':'
    [digits e.start.toNat, digits e.length.toNat, signedDigits e.file.toInt, [e.jump.letter],
      digits e.depth.toNat]

namespace SourceMap

/-- Reads the written form of a source map. -/
def decode (text : String) : Except Malformed SourceMap :=
  if text.toList = [] then .ok ⟨[]⟩
  else
    match readSegments none 0 (fields ';' text.toList) with
    | .error malformed => .error malformed
    | .ok entries => .ok ⟨entries⟩

/-- Writes a source map. -/
def encode (m : SourceMap) : String :=
  String.ofList (joined ';' (m.entries.map Entry.written))

end SourceMap

end CodeAtlas
