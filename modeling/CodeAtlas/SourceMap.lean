/-!
# Source maps

A source map describes the instructions of a piece of code in order, one entry each. An entry names
the source file its instruction was compiled from, the range of bytes there, and how the instruction
takes part in calls. Offsets and lengths are 64-bit words, and the end of a range is capped at the
largest word.

`SourceMap.entryAt` finds the entry of an instruction, and `SourceMap.covering` the entry that
describes an offset best, whatever its file.
-/

namespace CodeAtlas

/-- The largest 64-bit offset. -/
def maxOffset : Nat := UInt64.size - 1

/-! ## Entries -/

/-- How an instruction takes part in calls. -/
inductive Jump
  /-- A jump into a function. -/
  | into
  /-- A return from a function. -/
  | out
  /-- An ordinary jump, or no jump at all. -/
  | regular
  deriving DecidableEq, Repr

/-- The letter of a kind of jump. -/
def Jump.letter : Jump → Char
  | into => 'i'
  | out => 'o'
  | regular => '-'

/-- The kind of jump with a given letter. -/
def Jump.ofLetter : Char → Option Jump
  | 'i' => some into
  | 'o' => some out
  | '-' => some regular
  | _ => none

/-- A letter is read as the kind of jump it is written for, and no other letter is read. -/
theorem Jump.ofLetter_eq_some_iff {c : Char} {j : Jump} : ofLetter c = some j ↔ c = j.letter := by
  constructor
  · intro h
    unfold ofLetter at h
    split at h <;> cases h <;> rfl
  · rintro rfl
    cases j <;> rfl

/-- The description of one instruction. -/
structure Entry where
  /-- The byte offset at which the range starts. -/
  start : UInt64
  /-- The number of bytes in the range. -/
  length : UInt64
  /-- The index of the source file, negative when the instruction has none. -/
  file : Int32
  /-- How the instruction takes part in calls. -/
  jump : Jump
  /-- The depth of modifier bodies around the instruction. -/
  depth : UInt32
  deriving DecidableEq, Repr

namespace Entry

/-- The offset behind the range, capped at the largest offset. -/
def stop (e : Entry) : Nat :=
  min (e.start.toNat + e.length.toNat) maxOffset

/-- Whether an offset lies in the range. -/
def contains (e : Entry) (offset : Nat) : Bool :=
  e.start.toNat ≤ offset && offset < e.stop

/-- Whether the instruction has a source file at all. -/
def hasSource (e : Entry) : Bool :=
  0 ≤ e.file.toInt

end Entry

/-! ## Maps -/

/-- The entries of a piece of code, in the order of its instructions. -/
structure SourceMap where
  /-- One entry for each instruction. -/
  entries : List Entry
  deriving DecidableEq, Repr

namespace SourceMap

/-- The number of entries. -/
def size (m : SourceMap) : Nat :=
  m.entries.length

/-- The entry of the instruction with a given index. -/
def entryAt (m : SourceMap) (index : Nat) : Option Entry :=
  m.entries[index]?

/-- Of two candidates for the entry before an offset, the one that starts later; of two that start
together, the second. -/
def later (best : Option Entry) (e : Entry) : Option Entry :=
  match best with
  | none => some e
  | some b => if b.start ≤ e.start then some e else some b

/-- The last of the entries with the greatest start not past an offset. -/
def lastBefore (m : SourceMap) (offset : Nat) : Option Entry :=
  (m.entries.filter fun e => e.start.toNat ≤ offset).foldl later none

/-- The first entry whose range contains an offset. In a gap between ranges it is the last of the
entries with the greatest start not past the offset, and there is none before every start. -/
def covering (m : SourceMap) (offset : Nat) : Option Entry :=
  match m.entries.find? (·.contains offset) with
  | some e => some e
  | none => m.lastBefore offset

end SourceMap

end CodeAtlas
