import CodeAtlas.Proofs.Resolver
import CodeAtlas.Trace

/-!
# What a recorded trace answers

A recorded trace remembers the instruction maps it has made. They are maps of the code that is
recorded at present (`Coherent`): replacing a code forgets its map, and no other call touches one
but to make it. So a recorded trace answers as functions of its code and its steps alone
(`steady_replies`), and whatever it has been asked does not matter.
-/

namespace CodeAtlas

namespace RecordedTrace

/-! ## Calls -/

/-- What can be done with a recorded trace. -/
inductive Call
  /-- A code is recorded. -/
  | insertCode (address : CodeAddress) (code : List UInt8)
  /-- All steps are recorded. -/
  | withSteps (steps : List Nat)
  /-- One more step is recorded. -/
  | pushStep (pc : Nat)
  /-- The code at an address is asked for. -/
  | code (address : CodeAddress)
  /-- The instruction of a step is asked for. -/
  | index (address : CodeAddress) (step : Nat)

/-- The trace after a call. -/
def perform (trace : RecordedTrace) : Call → RecordedTrace
  | .insertCode address code => trace.insertCode address code
  | .withSteps steps => trace.withSteps steps
  | .pushStep pc => trace.pushStep pc
  | .code address => (CodeProvider.code trace address).provider
  | .index address step => (CodeProvider.instructionIndex trace address step).provider

/-- The trace after calls on an empty one. -/
def after (calls : List Call) : RecordedTrace :=
  calls.foldl perform empty

/-! ## Maps and code -/

/-- Every map that is remembered is the map of the code recorded for its address. -/
def Coherent (trace : RecordedTrace) : Prop :=
  ∀ address map, trace.maps.get? address = some map →
    ∃ code, trace.code.get? address = some code ∧ map = InstructionMap.ofCode code

/-- A trace without maps is coherent. -/
theorem coherent_empty : empty.Coherent :=
  fun _ _ hmap => by cases hmap

/-- Recording a code keeps a trace coherent, as it forgets the map of the code it replaces. -/
theorem Coherent.insertCode {trace : RecordedTrace} (h : trace.Coherent) (address : CodeAddress)
    (code : List UInt8) : (trace.insertCode address code).Coherent := by
  intro other map hmap
  have herased : (trace.maps.erase address).get? other = some map := hmap
  show ∃ found, (trace.code.insert address code).get? other = some found ∧ _
  rw [Table.get?_erase] at herased
  rw [Table.get?_insert]
  split at herased
  · cases herased
  · rename_i hdiffer
    rw [if_neg hdiffer]
    exact h other map herased

/-- Asking for an instruction changes neither the code nor the steps, and keeps a trace coherent. -/
theorem Coherent.instructionIndex {trace : RecordedTrace} (h : trace.Coherent)
    (address : CodeAddress) (step : Nat) :
    (trace.instructionIndex address step).trace.Coherent ∧
      (trace.instructionIndex address step).trace.code = trace.code ∧
      (trace.instructionIndex address step).trace.steps = trace.steps := by
  unfold RecordedTrace.instructionIndex
  split
  · exact ⟨h, rfl, rfl⟩
  · split
    · exact ⟨h, rfl, rfl⟩
    · split
      · exact ⟨h, rfl, rfl⟩
      · rename_i code hcode
        refine ⟨fun other map hmap => ?_, rfl, rfl⟩
        have hinserted : (trace.maps.insert address (InstructionMap.ofCode code)).get? other =
          some map := hmap
        rw [Table.get?_insert] at hinserted
        split at hinserted
        · rename_i hsame
          cases hinserted
          exact ⟨code, by rw [hsame, hcode], rfl⟩
        · exact h other map hinserted

/-- Every call keeps a trace coherent. -/
theorem Coherent.perform {trace : RecordedTrace} (h : trace.Coherent) (call : Call) :
    (trace.perform call).Coherent := by
  cases call with
  | insertCode address code => exact h.insertCode address code
  | withSteps steps => exact h
  | pushStep pc => exact h
  | code address => exact h
  | index address step => exact (h.instructionIndex address step).1

/-- A trace that has come about by calls on an empty one is coherent. -/
theorem coherent_after (calls : List Call) : (after calls).Coherent := by
  unfold after
  have hrun : ∀ trace : RecordedTrace, trace.Coherent → (calls.foldl perform trace).Coherent := by
    induction calls with
    | nil => exact fun _ h => h
    | cons call rest ih => exact fun trace h => ih (trace.perform call) (h.perform call)
  exact hrun empty coherent_empty

/-! ## Answers -/

/-- The index of the instruction that ran at a step, read off the code itself. -/
def indexAt (trace : RecordedTrace) (address : CodeAddress) (step : Nat) : Except Fault Nat :=
  match trace.steps[step]? with
  | none => .error (.beyondTrace step)
  | some pc =>
    match trace.code.get? address with
    | none => .error (.noCode address)
    | some code => indexIn (InstructionMap.ofCode code) pc address

/-- The maps that a coherent trace remembers do not show in its answers. -/
theorem Coherent.instructionIndex_index {trace : RecordedTrace} (h : trace.Coherent)
    (address : CodeAddress) (step : Nat) :
    (trace.instructionIndex address step).index = trace.indexAt address step := by
  unfold RecordedTrace.instructionIndex indexAt
  cases trace.steps[step]? with
  | none => rfl
  | some pc =>
    cases hmap : trace.maps.get? address with
    | none => cases trace.code.get? address <;> rfl
    | some map =>
      obtain ⟨code, hcode, rfl⟩ := h address map hmap
      simp only [hcode]

/-- The reply of a trace to a question for code. -/
def codeReply (trace : RecordedTrace) (address : CodeAddress) : Except Failure (List UInt8) :=
  (trace.codeAt address).mapError Fault.failure

/-- The reply of a trace to a question for an instruction. -/
def indexReply (trace : RecordedTrace) (address : CodeAddress) (step : Nat) : Except Failure Nat :=
  (trace.indexAt address step).mapError Fault.failure

/-- Questions change neither the code nor the steps of a coherent trace, and keep it coherent. -/
theorem Coherent.asked {trace later : RecordedTrace} (h : trace.Coherent)
    (hasked : Asked trace later) :
    later.Coherent ∧ later.code = trace.code ∧ later.steps = trace.steps := by
  induction hasked with
  | refl => exact ⟨h, rfl, rfl⟩
  | code address hbefore ih => exact ih
  | index address step hbefore ih =>
    obtain ⟨hcoherent, hcode, hsteps⟩ := ih
    obtain ⟨hstill, hcode', hsteps'⟩ := hcoherent.instructionIndex address step
    exact ⟨hstill, hcode'.trans hcode, hsteps'.trans hsteps⟩

/-- A question for an instruction keeps the maps that are remembered. -/
theorem maps_instructionIndex {trace : RecordedTrace} {address : CodeAddress} {map : InstructionMap}
    (h : trace.maps.get? address = some map) (other : CodeAddress) (step : Nat) :
    (trace.instructionIndex other step).trace.maps.get? address = some map := by
  unfold RecordedTrace.instructionIndex
  split
  · exact h
  · split
    · exact h
    · rename_i hnone
      split
      · exact h
      · -- A map is made for an address that has none.
        have hdiffer : address ≠ other := by
          rintro rfl
          rw [h] at hnone
          cases hnone
        exact (Table.get?_insert _ _ _ _).trans ((if_neg hdiffer).trans h)

/-- Questions keep the maps that are remembered. -/
theorem maps_of_asked {trace later : RecordedTrace} (hasked : Asked trace later)
    {address : CodeAddress} {map : InstructionMap} (h : trace.maps.get? address = some map) :
    later.maps.get? address = some map := by
  induction hasked with
  | refl => exact h
  | code other hbefore ih => exact ih
  | index other step hbefore ih => exact maps_instructionIndex ih other step

/-- A coherent trace answers every question as its code and its steps say. -/
theorem Coherent.steady_replies {trace : RecordedTrace} (h : trace.Coherent) :
    Steady trace trace.codeReply trace.indexReply where
  code := by
    intro later hasked address
    obtain ⟨-, hcode, -⟩ := h.asked hasked
    show (later.codeAt address).mapError Fault.failure = _
    unfold codeReply codeAt
    rw [hcode]
  index := by
    intro later hasked address step
    obtain ⟨hcoherent, hcode, hsteps⟩ := h.asked hasked
    show ((later.instructionIndex address step).index).mapError Fault.failure = _
    rw [hcoherent.instructionIndex_index]
    unfold indexReply indexAt
    rw [hcode, hsteps]

end RecordedTrace

/-- An account for small traces. -/
def Address.sample : Address :=
  ⟨List.replicate 20 0x11, rfl⟩

end CodeAtlas
