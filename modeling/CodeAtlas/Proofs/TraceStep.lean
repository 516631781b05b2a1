import CodeAtlas.Proofs.Metered
import CodeAtlas.Proofs.Workload

/-!
# When a trace step is turned into an instruction

A lookup at a step of the trace needs two answers: the code at its address and the instruction that
ran at the step. `Resolver.lookup` gets the source map first. `Resolver.stepFirst` asks for the
instruction first, and for nothing more if there is none.

If neither answer depends on the other (`OrderFree`), the two part ways exactly when the step has no
instruction and the source map is not kept (`Resolver.lookup_atStep_iff_stepFirst`). Then
`Resolver.lookup` has asked for code, where `Resolver.stepFirst` asks for none. Its error is that of
the code if the code resolves to nothing, and its caches have grown if the code resolves to a source
map.
-/

namespace CodeAtlas

/-! ## The instruction first -/

/-- The caches keep the same for every address. -/
def Caches.Alike (caches other : Caches) : Prop :=
  ∀ address, caches.cached address = other.cached address ∧
    caches.generatedFor address = other.generatedFor address

/-- Caches that are recorded to are as before if and only if the address is of a creation and these
generated sources are kept for it. A deployed address that had no source map has one then. -/
theorem Caches.record_alike_iff {caches : Caches} {address : CodeAddress} {resolved : Resolved}
    (hnone : caches.cached address = none) :
    (caches.record address resolved).1.Alike caches ↔
      address.isCreation = true ∧ caches.generatedFor address = some resolved.generated := by
  constructor
  · intro halike
    obtain ⟨hcached, hgenerated⟩ := halike address
    rw [cached_record] at hcached
    rw [generatedFor_record, if_pos rfl] at hgenerated
    refine ⟨?_, hgenerated.symm⟩
    cases hcreation : address.isCreation with
    | true => rfl
    | false =>
      rw [if_pos ⟨rfl, hcreation⟩, hnone] at hcached
      cases hcached
  · rintro ⟨hcreation, hgenerated⟩ other
    rw [cached_record, generatedFor_record]
    constructor
    · refine if_neg fun hboth => ?_
      rw [hboth.1, hcreation] at hboth
      cases hboth.2
    · split
      · rename_i hsame
        rw [hsame, hgenerated]
      · rfl

/-- Two turns come to the same and leave the same in the caches. -/
def Turn.SameOutcome {σ α : Type} (turn other : Turn σ α) : Prop :=
  turn.result = other.result ∧ turn.resolver.caches.Alike other.resolver.caches

variable {σ : Type} [CodeProvider σ]

/-- The resolver after its provider has been asked for the instruction that ran at a step. -/
def Resolver.askedStep (resolver : Resolver σ) (address : CodeAddress) (step : Nat) : Resolver σ :=
  { resolver with
    provider := (CodeProvider.instructionIndex resolver.provider address step).provider }

/-- A lookup at a step of the trace that asks for the instruction first. If the step has none, that
is the answer. Otherwise the entry of the instruction is looked up. -/
def Resolver.stepFirst (resolver : Resolver σ) (address : CodeAddress) (artifacts : ArtifactSet)
    (step : Nat) : Turn σ LookupResult :=
  let reply := CodeProvider.instructionIndex resolver.provider address step
  match reply.result with
  | .error failure => ⟨.error (.provider failure), resolver.askedStep address step, reply.records⟩
  | .ok index =>
    ((resolver.askedStep address step).lookup ⟨address, artifacts, .atIndex index⟩).behind
      reply.records

/-- The answers of a provider for the code at an address and for the instruction at a step do not
depend on which of the two is asked for first. -/
structure OrderFree (provider : σ) (address : CodeAddress) (step : Nat) : Prop where
  /-- Asking for the instruction does not change the code. -/
  code :
    (CodeProvider.code (CodeProvider.instructionIndex provider address step).provider
      address).result = (CodeProvider.code provider address).result
  /-- Asking for the code does not change the instruction. -/
  index :
    (CodeProvider.instructionIndex (CodeProvider.code provider address).provider address
      step).result = (CodeProvider.instructionIndex provider address step).result

/-- A recorded trace has the same code after a question for an instruction. -/
theorem RecordedTrace.instructionIndex_code (trace : RecordedTrace) (address : CodeAddress)
    (step : Nat) : (trace.instructionIndex address step).trace.code = trace.code := by
  unfold instructionIndex
  split
  · rfl
  · split
    · rfl
    · split <;> rfl

/-- The order in which a recorded trace is asked does not matter. -/
theorem RecordedTrace.orderFree (trace : RecordedTrace) (address : CodeAddress) (step : Nat) :
    OrderFree trace address step where
  code := by
    show ((trace.instructionIndex address step).trace.codeAt address).mapError _ = _
    unfold codeAt
    rw [instructionIndex_code]
    rfl
  index := rfl

/-- If the order does not matter for a provider, it does not matter when the provider is metered. -/
theorem OrderFree.metered {provider : σ} {address : CodeAddress} {step : Nat}
    (h : OrderFree provider address step) (fetches : List CodeAddress) :
    OrderFree (⟨provider, fetches⟩ : Metered σ) address step :=
  ⟨h.code, h.index⟩

namespace Resolver

/-! ## The two orders by cases -/

variable {resolver : Resolver σ} {address : CodeAddress} {step : Nat}

/-- Answering a lookup at a step comes to the failure of the question for the instruction, or to the
entry of the instruction. -/
theorem answer_atStep (resolver : Resolver σ) (address : CodeAddress) (artifacts : ArtifactSet)
    (step : Nat) (resolved : Resolved) :
    (resolver.answer ⟨address, artifacts, .atStep step⟩ resolved).result =
      match (CodeProvider.instructionIndex resolver.provider address step).result with
      | .error failure => .error (.provider failure)
      | .ok index => (resolved.map.lookup index).map .entry := rfl

/-- If the question for the instruction fails, that is all there is to asking for it first. -/
theorem stepFirst_of_error {failure : Failure}
    (h : (CodeProvider.instructionIndex resolver.provider address step).result = .error failure)
    (artifacts : ArtifactSet) :
    (resolver.stepFirst address artifacts step).result = .error (.provider failure) ∧
      (resolver.stepFirst address artifacts step).resolver = resolver.askedStep address step := by
  simp only [stepFirst, h, and_self]

/-- If there is an instruction, asking for it first goes on with a lookup of its entry. -/
theorem stepFirst_of_ok {index : Nat}
    (h : (CodeProvider.instructionIndex resolver.provider address step).result = .ok index)
    (artifacts : ArtifactSet) :
    (resolver.stepFirst address artifacts step).result =
        ((resolver.askedStep address step).lookup ⟨address, artifacts, .atIndex index⟩).result ∧
      (resolver.stepFirst address artifacts step).resolver =
        ((resolver.askedStep address step).lookup ⟨address, artifacts, .atIndex index⟩).resolver := by
  simp only [stepFirst, h]
  exact ⟨rfl, rfl⟩

/-- The order does not matter if the source map is kept, as no code is asked for then. -/
theorem lookup_atStep_of_kept {kept : Resolved} (h : resolver.caches.cached address = some kept)
    (artifacts : ArtifactSet) (step : Nat) :
    (resolver.lookup ⟨address, artifacts, .atStep step⟩).result =
        (resolver.stepFirst address artifacts step).result ∧
      (resolver.lookup ⟨address, artifacts, .atStep step⟩).resolver =
        (resolver.stepFirst address artifacts step).resolver := by
  have hstep : resolver.caches.cached (Lookup.mk address artifacts (.atStep step)).address =
    some kept := h
  rw [(lookup_of_kept hstep).1, (lookup_of_kept hstep).2, answer_atStep]
  cases hindex : (CodeProvider.instructionIndex resolver.provider address step).result with
  | error failure =>
    obtain ⟨hfailure, hlater⟩ := stepFirst_of_error hindex artifacts
    rw [hfailure, hlater]
    exact ⟨rfl, rfl⟩
  | ok index =>
    have hplace : (resolver.askedStep address step).caches.cached
      (Lookup.mk address artifacts (.atIndex index)).address = some kept := h
    obtain ⟨hfirst, hlater⟩ := stepFirst_of_ok hindex artifacts
    rw [hfirst, hlater, (lookup_of_kept hplace).1, (lookup_of_kept hplace).2]
    exact ⟨rfl, rfl⟩

variable (h : OrderFree resolver.provider address step)
  (hnone : resolver.caches.cached address = none)
include h hnone

/-- The order does not matter if the step has an instruction. -/
theorem lookup_atStep_of_ok {index : Nat}
    (hindex : (CodeProvider.instructionIndex resolver.provider address step).result = .ok index)
    (artifacts : ArtifactSet) :
    (resolver.lookup ⟨address, artifacts, .atStep step⟩).result =
        (resolver.stepFirst address artifacts step).result ∧
      (resolver.lookup ⟨address, artifacts, .atStep step⟩).resolver.caches =
        (resolver.stepFirst address artifacts step).resolver.caches := by
  obtain ⟨hfirst, hlater⟩ := stepFirst_of_ok hindex artifacts
  have hresolution : (resolver.askedStep address step).resolution address artifacts =
      resolver.resolution address artifacts :=
    congrArg (Caches.resolution resolver.isMatch artifacts address) h.code
  have hplace : (resolver.askedStep address step).caches.cached
    (Lookup.mk address artifacts (.atIndex index)).address = none := hnone
  rw [hfirst, hlater, (lookup_of_none hnone).1, (lookup_of_none hnone).2,
    (lookup_of_none hplace).1, (lookup_of_none hplace).2]
  cases hcode : resolver.resolution address artifacts with
  | error error =>
    rw [hcode] at hresolution
    rw [(resume_of_error hcode).1, (resume_of_error hcode).2, (resume_of_error hresolution).1,
      (resume_of_error hresolution).2]
    exact ⟨rfl, rfl⟩
  | ok resolved =>
    rw [hcode] at hresolution
    rw [(resume_of_ok hcode).1, (resume_of_ok hcode).2, (resume_of_ok hresolution).1,
      (resume_of_ok hresolution).2, answer_caches, answer_caches, answer_atStep]
    have hstep : (CodeProvider.instructionIndex (resolver.recorded address resolved).provider
        address step).result = .ok index := h.index.trans hindex
    rw [hstep]
    exact ⟨rfl, rfl⟩

/-- A lookup at a step without an instruction whose source map is not kept comes to the error of the
code. If the code resolves to a source map, that is recorded before the failure comes out. -/
theorem lookup_atStep_of_error {failure : Failure}
    (hindex : (CodeProvider.instructionIndex resolver.provider address step).result =
      .error failure) (artifacts : ArtifactSet) :
    match resolver.resolution address artifacts with
    | .error error =>
      (resolver.lookup ⟨address, artifacts, .atStep step⟩).result = .error error ∧
        (resolver.lookup ⟨address, artifacts, .atStep step⟩).resolver.caches = resolver.caches
    | .ok resolved =>
      (resolver.lookup ⟨address, artifacts, .atStep step⟩).result = .error (.provider failure) ∧
        (resolver.lookup ⟨address, artifacts, .atStep step⟩).resolver.caches =
          (resolver.caches.record address resolved).1 := by
  rw [(lookup_of_none hnone).1, (lookup_of_none hnone).2]
  cases hcode : resolver.resolution address artifacts with
  | error error =>
    rw [(resume_of_error hcode).1, (resume_of_error hcode).2]
    exact ⟨rfl, rfl⟩
  | ok resolved =>
    rw [(resume_of_ok hcode).1, (resume_of_ok hcode).2, answer_caches, answer_atStep]
    have hstep : (CodeProvider.instructionIndex (resolver.recorded address resolved).provider
        address step).result = .error failure := h.index.trans hindex
    rw [hstep]
    exact ⟨rfl, rfl⟩

end Resolver

/-! ## Where the two part ways -/

/-- A lookup at a step of the trace comes to the same and leaves the same in the caches as one that
asks for the instruction first, if and only if the step has an instruction, or the source map is
kept, or it makes no difference that the code was asked for: it fails as the step does, or it
resolves for a creation to the generated sources that are kept. The two have asked for the same code
if and only if the step has an instruction or the source map is kept. -/
theorem Resolver.lookup_atStep_iff_stepFirst {resolver : Resolver (Metered σ)}
    {address : CodeAddress} {step : Nat} (h : OrderFree resolver.provider address step)
    (artifacts : ArtifactSet) :
    ((resolver.lookup ⟨address, artifacts, .atStep step⟩).SameOutcome
        (resolver.stepFirst address artifacts step) ↔
      ∀ failure,
        (CodeProvider.instructionIndex resolver.provider address step).result = .error failure →
        resolver.caches.cached address = none →
        resolver.resolution address artifacts = .error (.provider failure) ∨
          ∃ resolved, resolver.resolution address artifacts = .ok resolved ∧
            address.isCreation = true ∧
            resolver.caches.generatedFor address = some resolved.generated) ∧
    ((resolver.lookup ⟨address, artifacts, .atStep step⟩).resolver.provider.fetches =
        (resolver.stepFirst address artifacts step).resolver.provider.fetches ↔
      ∀ failure,
        (CodeProvider.instructionIndex resolver.provider address step).result = .error failure →
        resolver.caches.cached address ≠ none) := by
  rw [fetches_lookup]
  cases hcached : resolver.caches.cached address with
  | some kept =>
    obtain ⟨hresult, hresolver⟩ := lookup_atStep_of_kept hcached artifacts step
    have hfetches := resolver.fetches_lookup ⟨address, artifacts, .atStep step⟩
    rw [hcached, hresolver] at hfetches
    refine ⟨iff_of_true ⟨hresult, ?_⟩ (by simp), iff_of_true hfetches.symm (by simp)⟩
    rw [hresolver]
    exact fun _ => ⟨rfl, rfl⟩
  | none =>
    cases hindex : (CodeProvider.instructionIndex resolver.provider address step).result with
    | ok index =>
      obtain ⟨hresult, hcaches⟩ := lookup_atStep_of_ok h hcached hindex artifacts
      refine ⟨iff_of_true ⟨hresult, ?_⟩ (by simp), iff_of_true ?_ (by simp)⟩
      · rw [hcaches]
        exact fun _ => ⟨rfl, rfl⟩
      · rw [(stepFirst_of_ok hindex artifacts).2, fetches_lookup]
        show _ = _ ++ if (resolver.caches.cached address).isSome then [] else [address]
        rw [hcached]
        rfl
    | error failure =>
      obtain ⟨hfirst, hlater⟩ := stepFirst_of_error hindex artifacts
      have hlookup := lookup_atStep_of_error h hcached hindex artifacts
      unfold Turn.SameOutcome
      rw [hfirst, hlater]
      constructor
      · cases hcode : resolver.resolution address artifacts with
        | error error =>
          rw [hcode] at hlookup
          rw [hlookup.1, hlookup.2]
          have halike : resolver.caches.Alike (resolver.askedStep address step).caches :=
            fun _ => ⟨rfl, rfl⟩
          simp [halike]
        | ok resolved =>
          rw [hcode] at hlookup
          rw [hlookup.1, hlookup.2]
          show _ ∧ (resolver.caches.record address resolved).1.Alike resolver.caches ↔ _
          rw [Caches.record_alike_iff hcached]
          simp
      · show resolver.provider.fetches ++ [address] = resolver.provider.fetches ↔ _
        simp

/-- At a step that was recorded the order does not matter. -/
theorem Resolver.lookup_atStep_of_recorded :
    ((overTrace (Workload.raceTrace.pushStep 0)).lookup
        ⟨.deployed .sample, Workload.raceArtifacts 0, .atStep 0⟩).SameOutcome
      ((overTrace (Workload.raceTrace.pushStep 0)).stepFirst (.deployed .sample)
        (Workload.raceArtifacts 0) 0) := by
  have hfree : OrderFree (overTrace (Workload.raceTrace.pushStep 0)).provider
      (.deployed .sample) 0 :=
    ((Workload.raceTrace.pushStep 0).orderFree (.deployed .sample) 0).metered []
  refine (lookup_atStep_iff_stepFirst hfree _).1.mpr fun failure hfailure => ?_
  cases hfailure

/-- At a step that was not recorded a lookup for an account with code fails as the step does, but it
has fetched the code and keeps its source map. Asking for the instruction first fetches nothing and
keeps nothing. Where there is no code either, the two come to different failures. -/
theorem Resolver.lookup_atStep_of_missing :
    (((overTrace Workload.raceTrace).lookup
          ⟨.deployed .sample, Workload.raceArtifacts 0, .atStep 0⟩).resolver.caches.cached
        (.deployed .sample) = some (Workload.raceResolved 0) ∧
      ((overTrace Workload.raceTrace).stepFirst (.deployed .sample) (Workload.raceArtifacts 0)
          0).resolver.caches.cached (.deployed .sample) = none) ∧
    (((overTrace Workload.raceTrace).lookup
          ⟨.deployed .sample, Workload.raceArtifacts 0, .atStep 0⟩).resolver.provider.fetches =
        [.deployed .sample] ∧
      ((overTrace Workload.raceTrace).stepFirst (.deployed .sample) (Workload.raceArtifacts 0)
          0).resolver.provider.fetches = []) ∧
    ((overTrace Workload.raceTrace).lookup
          ⟨.creation 0, Workload.raceArtifacts 0, .atStep 0⟩).result ≠
      ((overTrace Workload.raceTrace).stepFirst (.creation 0) (Workload.raceArtifacts 0)
          0).result := by
  refine ⟨⟨rfl, rfl⟩, ⟨rfl, rfl⟩, fun hsame => ?_⟩
  have hcode : ((overTrace Workload.raceTrace).lookup
      ⟨.creation 0, Workload.raceArtifacts 0, .atStep 0⟩).result =
        .error (.provider (RecordedTrace.Fault.noCode (.creation 0)).failure) := rfl
  have hstep : ((overTrace Workload.raceTrace).stepFirst (.creation 0) (Workload.raceArtifacts 0)
      0).result = .error (.provider (RecordedTrace.Fault.beyondTrace 0).failure) := rfl
  rw [hcode, hstep] at hsame
  simp only [Except.error.injEq, LookupError.provider.injEq] at hsame
  revert hsame
  decide

end CodeAtlas
