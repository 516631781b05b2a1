/-!
# Instructions of a code

A trace records program counters, and a source map is indexed by instruction. The two part where an
instruction carries data: the opcodes `0x60` to `0x7f` push the one to thirty-two bytes behind them.
`instructionStarts` walks a code from its first byte and lists where instructions start. A push
whose data is cut off by the end of the code is an instruction like any other. An `InstructionMap`
keeps this list to find the index of the instruction that starts at a program counter.
-/

namespace CodeAtlas

/-- The number of data bytes behind an opcode. -/
def immediateSize (opcode : UInt8) : Nat :=
  if 0x60 ≤ opcode ∧ opcode ≤ 0x7f then opcode.toNat - 0x5f else 0

/-- The program counters at which instructions start, in bytes of which the first has the program
counter `pc` and is preceded by an instruction with `skip` more data bytes. -/
def startsFrom (pc skip : Nat) : List UInt8 → List Nat
  | [] => []
  | byte :: rest =>
    match skip with
    | skip + 1 => startsFrom (pc + 1) skip rest
    | 0 => pc :: startsFrom (pc + 1) (immediateSize byte) rest

/-- The program counters at which the instructions of a code start, in ascending order. -/
def instructionStarts (code : List UInt8) : List Nat :=
  startsFrom 0 0 code

/-- Where the instructions of a code start. -/
structure InstructionMap where
  /-- The program counters at which instructions start, in ascending order. -/
  starts : List Nat
  deriving DecidableEq, Repr

namespace InstructionMap

/-- The map of a code. -/
def ofCode (code : List UInt8) : InstructionMap :=
  ⟨instructionStarts code⟩

/-- The index of the instruction that starts at a program counter, if one does. -/
def index? (map : InstructionMap) (pc : Nat) : Option Nat :=
  map.starts.idxOf? pc

/-- The number of instructions. -/
def size (map : InstructionMap) : Nat :=
  map.starts.length

end InstructionMap

end CodeAtlas
