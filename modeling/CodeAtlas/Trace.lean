import CodeAtlas.Address.Written
import CodeAtlas.Instruction
import CodeAtlas.Provider
import CodeAtlas.Table

/-!
# Recorded traces

The code that ran at each address and the program counter of every step, recorded up front. Steps
are counted over the whole trace. The instructions of a code are mapped when they are first asked
for and the map is kept until the code is replaced. A recorded trace is a provider of code, whose
failures are its faults.
-/

namespace CodeAtlas

/-- A recorded trace. -/
structure RecordedTrace where
  /-- The code at each address. -/
  code : Table CodeAddress (List UInt8)
  /-- The program counter of each step. -/
  steps : List Nat
  /-- The maps made so far. -/
  maps : Table CodeAddress InstructionMap

namespace RecordedTrace

/-- Why a recorded trace has no answer. -/
inductive Fault
  /-- There is no code for the address. -/
  | noCode (address : CodeAddress)
  /-- The trace has not so many steps. -/
  | beyondTrace (step : Nat)
  /-- No instruction starts at the program counter of the step. -/
  | notBoundary (pc : Nat) (address : CodeAddress)
  deriving DecidableEq

/-- The wording of a fault. -/
def Fault.message : Fault → String
  | .noCode address => "no code recorded for " ++ address.display
  | .beyondTrace step => "trace step " ++ Text.decimal step ++ " is beyond the recorded trace"
  | .notBoundary pc address =>
    "pc " ++ Text.decimal pc ++ " is not an instruction boundary in the code of " ++
      address.display

/-- A fault as it is reported. -/
def Fault.failure (fault : Fault) : Failure :=
  ⟨fault.message, []⟩

/-- A trace of which nothing is recorded. -/
def empty : RecordedTrace :=
  ⟨.empty, [], .empty⟩

/-- Records the code at an address, in place of what was recorded there. -/
def insertCode (trace : RecordedTrace) (address : CodeAddress) (code : List UInt8) :
    RecordedTrace :=
  { trace with code := trace.code.insert address code, maps := trace.maps.erase address }

/-- Records the program counters of all steps. -/
def withSteps (trace : RecordedTrace) (steps : List Nat) : RecordedTrace :=
  { trace with steps }

/-- Records one more step. -/
def pushStep (trace : RecordedTrace) (pc : Nat) : RecordedTrace :=
  { trace with steps := trace.steps ++ [pc] }

/-- The code at an address. -/
def codeAt (trace : RecordedTrace) (address : CodeAddress) : Except Fault (List UInt8) :=
  match trace.code.get? address with
  | some code => .ok code
  | none => .error (.noCode address)

/-- What a question to a recorded trace comes to. -/
structure Answer where
  /-- The index of an instruction, or why there is none. -/
  index : Except Fault Nat
  /-- The trace with the maps made so far. -/
  trace : RecordedTrace
  /-- What is reported: that a map was made. -/
  records : List Log.Record

/-- Reports that the instructions of the code at an address are mapped. -/
def mapping (address : CodeAddress) : Log.Record :=
  { level := .trace, message := "building pc to instruction index map",
    values := [("address", .text address.display)] }

/-- The index in a map of the instruction that starts at a program counter. -/
def indexIn (map : InstructionMap) (pc : Nat) (address : CodeAddress) : Except Fault Nat :=
  match map.index? pc with
  | some index => .ok index
  | none => .error (.notBoundary pc address)

/-- The index of the instruction of the code at an address that ran at a step. -/
def instructionIndex (trace : RecordedTrace) (address : CodeAddress) (step : Nat) : Answer :=
  match trace.steps[step]? with
  | none => ⟨.error (.beyondTrace step), trace, []⟩
  | some pc =>
    match trace.maps.get? address with
    | some map => ⟨indexIn map pc address, trace, []⟩
    | none =>
      match trace.code.get? address with
      | none => ⟨.error (.noCode address), trace, []⟩
      | some code =>
        let map := InstructionMap.ofCode code
        ⟨indexIn map pc address, { trace with maps := trace.maps.insert address map },
          [mapping address]⟩

instance : CodeProvider RecordedTrace where
  code trace address := ⟨(trace.codeAt address).mapError Fault.failure, trace, []⟩
  instructionIndex trace address step :=
    let answer := trace.instructionIndex address step
    ⟨answer.index.mapError Fault.failure, answer.trace, answer.records⟩

end RecordedTrace

end CodeAtlas
