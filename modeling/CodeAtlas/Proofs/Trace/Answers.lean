import CodeAtlas.Proofs.Instruction
import CodeAtlas.Proofs.Trace
import Mathlib.Data.List.Induction

/-!
# A recorded trace after any calls

A recorded trace answers questions from the code and the steps that are recorded at present. Which
these are is said here by the calls themselves: the code that was recorded last for an address, and
the steps that were recorded at once last together with those recorded one by one since. One call
changes them as its kind says (`Coherent.get?_code_perform`, `Coherent.steps_perform`), and so they
are what the trace has after any calls (`get?_code_after`, `steps_after`).

As the trace stays coherent, the maps that it remembers do not show in an answer, and the answer is
told by the step, the code and the program counter in this order (`index_after`). In particular the
questions that were asked before do not matter (`answers_as_recorded`).
-/

namespace CodeAtlas.RecordedTrace

/-! ## What calls record -/

/-- The code that a call records for an address. -/
def Call.codeFor (address : CodeAddress) : Call → Option (List UInt8)
  | .insertCode other bytes => if other = address then some bytes else none
  | _ => none

/-- The steps that are recorded after a call. -/
def Call.stepsFrom (steps : List Nat) : Call → List Nat
  | .withSteps all => all
  | .pushStep pc => steps ++ [pc]
  | _ => steps

/-- The code that was recorded last for an address. -/
def recordedCode (calls : List Call) (address : CodeAddress) : Option (List UInt8) :=
  (calls.filterMap (·.codeFor address)).getLast?

/-- The steps that were recorded at once last, and those that were recorded one by one since. -/
def recordedSteps (calls : List Call) : List Nat :=
  calls.foldl (fun steps call => call.stepsFrom steps) []

/-- Whether a call asks for something. -/
def Call.isQuestion : Call → Bool
  | .code _ => true
  | .index _ _ => true
  | _ => false

/-- One more call records its code for the address, if it records one. -/
theorem recordedCode_concat (calls : List Call) (call : Call) (address : CodeAddress) :
    recordedCode (calls ++ [call]) address =
      (call.codeFor address).or (recordedCode calls address) := by
  unfold recordedCode
  rw [List.filterMap_append]
  cases hcode : call.codeFor address with
  | none =>
    rw [List.filterMap_cons_none hcode, List.filterMap_nil, List.append_nil]
    rfl
  | some code =>
    rw [List.filterMap_cons_some hcode, List.filterMap_nil, List.getLast?_concat]
    rfl

/-- One more call changes the steps as its kind says. -/
theorem recordedSteps_concat (calls : List Call) (call : Call) :
    recordedSteps (calls ++ [call]) = call.stepsFrom (recordedSteps calls) := by
  unfold recordedSteps
  rw [List.foldl_append, List.foldl_cons, List.foldl_nil]

/-- Questions record no code. -/
theorem recordedCode_filter (calls : List Call) (address : CodeAddress) :
    recordedCode (calls.filter (!·.isQuestion)) address = recordedCode calls address := by
  unfold recordedCode
  rw [List.filterMap_filter]
  congr 2
  funext call
  cases call <;> rfl

/-- Questions record no steps. -/
theorem recordedSteps_filter (calls : List Call) :
    recordedSteps (calls.filter (!·.isQuestion)) = recordedSteps calls := by
  unfold recordedSteps
  rw [List.foldl_filter]
  congr 1
  funext steps call
  cases call <;> rfl

/-! ## What a trace has -/

/-- The trace after one more call. -/
theorem after_concat (calls : List Call) (call : Call) :
    after (calls ++ [call]) = (after calls).perform call := by
  unfold after
  rw [List.foldl_append, List.foldl_cons, List.foldl_nil]

/-- After a call, a trace has the code that the call records for an address, or else the one that it
had. -/
theorem Coherent.get?_code_perform {trace : RecordedTrace} (h : trace.Coherent) (call : Call)
    (address : CodeAddress) :
    (trace.perform call).code.get? address =
      (call.codeFor address).or (trace.code.get? address) := by
  cases call with
  | insertCode other code =>
    calc (trace.code.insert other code).get? address
        = if address = other then some code else trace.code.get? address :=
          Table.get?_insert _ _ _ _
      _ = (if other = address then some code else none).or (trace.code.get? address) := by
          by_cases hsame : other = address
          · rw [if_pos hsame, if_pos hsame.symm, Option.some_or]
          · rw [if_neg hsame, if_neg (Ne.symm hsame), Option.none_or]
  | withSteps steps => rfl
  | pushStep pc => rfl
  | code other => rfl
  | index other step =>
    have hcode : (trace.perform (.index other step)).code = trace.code :=
      (h.instructionIndex other step).2.1
    rw [hcode]
    rfl

/-- A call changes the steps of a trace as its kind says. -/
theorem Coherent.steps_perform {trace : RecordedTrace} (h : trace.Coherent) (call : Call) :
    (trace.perform call).steps = call.stepsFrom trace.steps := by
  cases call with
  | insertCode address code => rfl
  | withSteps steps => rfl
  | pushStep pc => rfl
  | code address => rfl
  | index address step => exact (h.instructionIndex address step).2.2

/-- After calls, a trace has the code that was recorded last for each address. -/
theorem get?_code_after (calls : List Call) (address : CodeAddress) :
    (after calls).code.get? address = recordedCode calls address := by
  -- The last call decides, and where it records no code the calls in front of it do.
  induction calls using List.reverseRecOn with
  | nil => rfl
  | append_singleton calls call ih =>
    rw [after_concat, (coherent_after calls).get?_code_perform, recordedCode_concat, ih]

/-- After calls, a trace has the steps that they record. -/
theorem steps_after (calls : List Call) : (after calls).steps = recordedSteps calls := by
  induction calls using List.reverseRecOn with
  | nil => rfl
  | append_singleton calls call ih =>
    rw [after_concat, (coherent_after calls).steps_perform, recordedSteps_concat, ih]

/-- Two sequences of calls record the same. -/
structure RecordAlike (calls others : List Call) : Prop where
  /-- The code is the same for every address. -/
  code : ∀ address, recordedCode others address = recordedCode calls address
  /-- The steps are the same. -/
  steps : recordedSteps others = recordedSteps calls

/-- A trace after calls that record the same replies the same, whatever it is asked. -/
theorem RecordAlike.steady_replies {calls others : List Call} (h : RecordAlike calls others) :
    Steady (after others) (after calls).codeReply (after calls).indexReply := by
  have hcode : (after others).codeReply = (after calls).codeReply := by
    funext address
    unfold codeReply codeAt
    rw [get?_code_after, get?_code_after, h.code]
  have hindex : (after others).indexReply = (after calls).indexReply := by
    funext address step
    unfold indexReply indexAt
    rw [steps_after, steps_after, h.steps, get?_code_after, get?_code_after, h.code]
  rw [← hcode, ← hindex]
  exact (coherent_after others).steady_replies

/-! ## What a trace answers -/

/-- The answer of a trace after calls, by what was recorded for the step and for the address. -/
theorem index_after (calls : List Call) (address : CodeAddress) (step : Nat) :
    ((after calls).instructionIndex address step).index =
      match (recordedSteps calls)[step]?, recordedCode calls address with
      | none, _ => .error (.beyondTrace step)
      | some _, none => .error (.noCode address)
      | some pc, some code => indexIn (InstructionMap.ofCode code) pc address := by
  rw [(coherent_after calls).instructionIndex_index]
  unfold indexAt
  rw [steps_after, get?_code_after]
  cases (recordedSteps calls)[step]? with
  | none => rfl
  | some pc => cases recordedCode calls address <;> rfl

/-- What a question for an instruction comes to, from the steps that are recorded and the code that
is recorded for its address. What stands first here is told first. -/
inductive Outcome (steps : List Nat) (code : Option (List UInt8)) (address : CodeAddress)
    (step : Nat) : Except Fault Nat → Prop
  /-- There are not so many steps. -/
  | beyondTrace (hstep : steps.length ≤ step) :
    Outcome steps code address step (.error (.beyondTrace step))
  /-- The step is recorded, but there is no code. -/
  | noCode (hstep : step < steps.length) (hcode : code = none) :
    Outcome steps code address step (.error (.noCode address))
  /-- Both are recorded, but no instruction of the code starts at the program counter of the
  step. -/
  | notBoundary {pc : Nat} {bytes : List UInt8} (hstep : steps[step]? = some pc)
    (hcode : code = some bytes) (hstart : pc ∉ instructionStarts bytes) :
    Outcome steps code address step (.error (.notBoundary pc address))
  /-- An instruction starts there, and this is its index. -/
  | found {pc index : Nat} {bytes : List UInt8} (hstep : steps[step]? = some pc)
    (hcode : code = some bytes) (hindex : (InstructionMap.ofCode bytes).index? pc = some index) :
    Outcome steps code address step (.ok index)

/-- What a trace answers after calls is what the question comes to, and nothing else is. -/
theorem index_after_eq_iff {calls : List Call} {address : CodeAddress} {step : Nat}
    {result : Except Fault Nat} :
    ((after calls).instructionIndex address step).index = result ↔
      Outcome (recordedSteps calls) (recordedCode calls address) address step result := by
  rw [index_after]
  -- The answer looks at the step first, then at the code, and last at the start of an instruction.
  constructor
  · rintro rfl
    cases hstep : (recordedSteps calls)[step]? with
    | none => exact .beyondTrace (List.getElem?_eq_none_iff.mp hstep)
    | some pc =>
      obtain ⟨hlength, -⟩ := List.getElem?_eq_some_iff.mp hstep
      cases hcode : recordedCode calls address with
      | none => exact .noCode hlength rfl
      | some bytes =>
        show Outcome _ _ _ _ (indexIn (InstructionMap.ofCode bytes) pc address)
        unfold indexIn
        cases hindex : (InstructionMap.ofCode bytes).index? pc with
        | none =>
          exact .notBoundary hstep rfl (InstructionMap.index?_ofCode_eq_none_iff.mp hindex)
        | some index => exact .found hstep rfl hindex
  · intro houtcome
    cases houtcome with
    | beyondTrace hstep => rw [List.getElem?_eq_none hstep]
    | noCode hstep hcode => rw [List.getElem?_eq_getElem hstep, hcode]
    | @notBoundary pc bytes hstep hcode hstart =>
      have hindex : (InstructionMap.ofCode bytes).index? pc = none :=
        InstructionMap.index?_ofCode_eq_none_iff.mpr hstart
      rw [hstep, hcode]
      show indexIn (InstructionMap.ofCode bytes) pc address = _
      unfold indexIn
      rw [hindex]
    | @found pc index bytes hstep hcode hindex =>
      rw [hstep, hcode]
      show indexIn (InstructionMap.ofCode bytes) pc address = _
      unfold indexIn
      rw [hindex]

/-- What a trace has and answers after calls, for an address and a step. -/
structure AnswersAsRecorded (calls : List Call) (address : CodeAddress) (step : Nat) : Prop where
  /-- A map that is remembered for the address is that of the code recorded last for it. -/
  map_eq : ∀ map, (after calls).maps.get? address = some map →
    ∃ code, recordedCode calls address = some code ∧ map = InstructionMap.ofCode code
  /-- The code that is answered is the one recorded last. -/
  code_eq : (after calls).codeAt address =
    (recordedCode calls address).elim (.error (.noCode address)) .ok
  /-- The answer is told by the steps that are recorded and by the code recorded last. -/
  index_eq_iff : ∀ result, ((after calls).instructionIndex address step).index = result ↔
    Outcome (recordedSteps calls) (recordedCode calls address) address step result
  /-- As a provider of code, the trace replies with this answer, a fault by its wording. -/
  reply_eq : (CodeProvider.instructionIndex (after calls) address step).result =
    ((after calls).instructionIndex address step).index.mapError Fault.failure
  /-- After any other calls that record the same steps and the same code for the address, the answer
  is the same. -/
  index_congr : ∀ others, recordedCode others address = recordedCode calls address →
    recordedSteps others = recordedSteps calls →
    ((after others).instructionIndex address step).index =
      ((after calls).instructionIndex address step).index
  /-- It is the same without all the questions that were asked. -/
  index_unasked : ((after (calls.filter (!·.isQuestion))).instructionIndex address step).index =
    ((after calls).instructionIndex address step).index

/-- After every sequence of calls on an empty trace, what is remembered is up to date, and a
question is answered from what is recorded at present. -/
theorem answers_as_recorded (calls : List Call) (address : CodeAddress) (step : Nat) :
    AnswersAsRecorded calls address step := by
  have hcongr : ∀ others, recordedCode others address = recordedCode calls address →
      recordedSteps others = recordedSteps calls →
      ((after others).instructionIndex address step).index =
        ((after calls).instructionIndex address step).index := by
    intro others hcode hsteps
    rw [index_after, index_after, hcode, hsteps]
  constructor
  case map_eq =>
    -- What is remembered agrees with the code of the trace, and this is the code recorded last.
    intro map hmap
    obtain ⟨code, hcode, hmade⟩ := coherent_after calls address map hmap
    exact ⟨code, get?_code_after calls address ▸ hcode, hmade⟩
  case code_eq =>
    unfold codeAt
    rw [get?_code_after]
    cases recordedCode calls address <;> rfl
  case index_eq_iff => exact fun result => index_after_eq_iff
  case reply_eq => rfl
  case index_congr => exact hcongr
  case index_unasked =>
    exact hcongr _ (recordedCode_filter calls address) (recordedSteps_filter calls)

/-- A code that replaces one of which a map was made is asked about at the same step with another
answer. -/
example :
    let before := [.insertCode (.deployed .sample) [0x60, 0x5b], .pushStep 1,
      .index (.deployed .sample) 0]
    ((after before).instructionIndex (.deployed .sample) 0).index =
        .error (.notBoundary 1 (.deployed .sample)) ∧
      ((after (before ++ [.insertCode (.deployed .sample) [0x5b, 0x5b]])).instructionIndex
        (.deployed .sample) 0).index = .ok 1 :=
  ⟨rfl, rfl⟩

end CodeAtlas.RecordedTrace
