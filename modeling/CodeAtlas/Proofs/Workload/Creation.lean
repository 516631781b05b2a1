import CodeAtlas.Proofs.Workload.Failure
import CodeAtlas.Proofs.Workload.Fetches
import CodeAtlas.Proofs.Workload.Transparency

/-!
# Lookups of creations

The step of a creation is not unique across transactions, so two lookups of the same step may be
about different code. No source map is kept for a creation: each lookup asks for the code, and what
it comes to is a function of the answer and of its own artifacts (`creationResult`). Neither what is
kept nor a lookup that overtakes it has a part in that (`Workload.creation_run`), although the
generated sources of both are kept under the same address.

`Workload.creation_lookup_fresh` says so for every state and every interleaving, with what such a
lookup leaves alone.
-/

namespace CodeAtlas

variable {σ : Type} [CodeProvider σ]

/-- What a lookup of the source map of a creation makes of the answer to its question for code. -/
def creationResult (isMatch : Matcher) (artifacts : ArtifactSet) (step : UInt64)
    (answer : Except Failure (List UInt8)) : LookupResult :=
  (Caches.resolution isMatch artifacts (.creation step) answer).map .map

/-- Whatever is kept, a lookup of the source map of a creation comes to what it makes of the code.
-/
theorem Resolver.result_lookup_creation (resolver : Resolver σ) (step : UInt64)
    (artifacts : ArtifactSet) :
    (resolver.lookup ⟨.creation step, artifacts, .map⟩).result =
      creationResult resolver.isMatch artifacts step
        (CodeProvider.code resolver.provider (.creation step)).result :=
  -- No source map is kept for a creation, so its source map is what the code resolves to.
  resolver.result_lookup_map (.creation step) artifacts

namespace Workload

/-- A move keeps the matcher. -/
theorem Step.isMatch {s s' : Workload σ} {move : Move} (hstep : Step s move s') :
    s'.resolver.isMatch = s.resolver.isMatch := by
  cases hstep with
  | hit request kept hkept => rfl
  | miss request hnone => rfl
  | fail id request error htask hresolution => rfl
  | resolve id request resolved htask hresolution => rfl
  | answer id request resolved htask => exact Resolver.answer_isMatch ..
  | idle id move hmove => rfl
  | clear => rfl

/-- When its code has come, a lookup of the source map of a creation is done. -/
theorem step_code_creation {s : Workload σ} {id : Nat} {step : UInt64} {artifacts : ArtifactSet}
    (h : s.tasks[id]? = some ⟨⟨.creation step, artifacts, .map⟩, .awaitingCode⟩) :
    (s.step (.code id)).tasks[id]? = some ⟨⟨.creation step, artifacts, .map⟩,
      .done (creationResult s.resolver.isMatch artifacts step
        (CodeProvider.code s.resolver.provider (.creation step)).result)⟩ := by
  obtain ⟨hlt, -⟩ := List.getElem?_eq_some_iff.mp h
  unfold creationResult
  show _ = some (Task.mk _ (.done ((s.resolver.resolution (.creation step) artifacts).map .map)))
  simp only [Workload.step, h, receiveCode, List.getElem?_set_self hlt]
  cases hresolution : s.resolver.resolution (.creation step) artifacts with
  | error error =>
    rw [(Resolver.fetch_of_error hresolution).1]
    rfl
  | ok resolved =>
    rw [(Resolver.fetch_of_ok hresolution).1]
    rfl

/-- A lookup of the source map of a creation waits until its code comes. Then it is done, with what
it makes of that code. -/
theorem creation_run {s : Workload σ} {id : Nat} {step : UInt64} {artifacts : ArtifactSet}
    (h : s.tasks[id]? = some ⟨⟨.creation step, artifacts, .map⟩, .awaitingCode⟩)
    (moves : List Move) :
    (.code id ∉ moves ∧
      (s.run moves).tasks[id]? = some ⟨⟨.creation step, artifacts, .map⟩, .awaitingCode⟩) ∨
    ∃ before after, moves = before ++ .code id :: after ∧ .code id ∉ before ∧
      (s.run moves).tasks[id]? = some ⟨⟨.creation step, artifacts, .map⟩,
        .done (creationResult s.resolver.isMatch artifacts step
          (CodeProvider.code (s.run before).resolver.provider (.creation step)).result)⟩ := by
  induction moves generalizing s with
  | nil => exact .inl ⟨List.not_mem_nil, h⟩
  | cons move moves ih =>
    by_cases hcode : move = .code id
    · -- The first time that code comes for the lookup. It is done then, and stays so.
      subst hcode
      obtain ⟨stage, hstage, hkeep⟩ := continues_run _ moves (step_code_creation h)
      rw [hkeep _ rfl] at hstage
      exact .inr ⟨[], moves, rfl, List.not_mem_nil, hstage⟩
    · have hwaits := step_of_awaitingCode h hcode
      rw [← (s.step_spec move).isMatch]
      obtain ⟨hnot, hstill⟩ | ⟨before, after, rfl, hnot, hdone⟩ := ih hwaits
      · exact .inl ⟨by simp [hnot, Ne.symm hcode], hstill⟩
      · exact .inr ⟨move :: before, after, rfl, by simp [hnot, Ne.symm hcode], hdone⟩

/-- A lookup of the source map of a creation is about its own code. For every step and all
artifacts:

* a new resolver comes to what it makes of the code that it is given;
* so does a resolver with any caches, which asks for the code once and changes what is kept for no
  other address;
* so does a lookup while any others are under way. It asks for the code once, waits until it comes,
  and is done with what it makes of it. None of its moves changes what is kept for another address.

As no source map is kept for a creation, all source maps that are kept stay as they are. -/
theorem creation_lookup_fresh (step : UInt64) (artifacts : ArtifactSet) :
    (∀ (provider : Metered σ) (isMatch : Matcher),
      alone provider isMatch ⟨.creation step, artifacts, .map⟩ =
        creationResult isMatch artifacts step
          (CodeProvider.code provider (.creation step)).result) ∧
    (∀ resolver : Resolver (Metered σ),
      let turn := resolver.lookup ⟨.creation step, artifacts, .map⟩
      turn.result = creationResult resolver.isMatch artifacts step
          (CodeProvider.code resolver.provider (.creation step)).result ∧
        turn.resolver.provider.fetches = resolver.provider.fetches ++ [.creation step] ∧
        turn.resolver.caches.AlikeBut (.creation step) resolver.caches) ∧
    ∀ (s : Workload (Metered σ)) (moves : List Move),
      let start := Move.start ⟨.creation step, artifacts, .map⟩
      let id := s.tasks.length
      s.questions id (start :: moves) = [.creation step] ∧
      ((.code id ∉ moves ∧ (s.run (start :: moves)).tasks[id]? =
          some ⟨⟨.creation step, artifacts, .map⟩, .awaitingCode⟩) ∨
        ∃ before after, moves = before ++ .code id :: after ∧ .code id ∉ before ∧
          (s.run (start :: moves)).tasks[id]? = some ⟨⟨.creation step, artifacts, .map⟩,
            .done (creationResult s.resolver.isMatch artifacts step
              (CodeProvider.code (s.run (start :: before)).resolver.provider
                (.creation step)).result)⟩) ∧
      ∀ before move, s.Makes (start :: moves) id before move →
        ((s.run before).step move).caches.AlikeBut (.creation step) (s.run before).caches := by
  refine ⟨fun provider isMatch => Resolver.result_lookup_creation _ step artifacts,
    fun resolver => ⟨resolver.result_lookup_creation step artifacts, resolver.fetches_lookup _,
      resolver.lookup_alikeBut _⟩, fun s moves => ?_⟩
  intro start id
  have hwaits : (s.step start).tasks[id]? =
      some ⟨⟨.creation step, artifacts, .map⟩, .awaitingCode⟩ := List.getElem?_concat_length
  have hrun : ∀ later, s.run (start :: later) = (s.step start).run later := fun _ => rfl
  have hmatch : (s.step start).resolver.isMatch = s.resolver.isMatch := (s.step_spec start).isMatch
  refine ⟨s.questions_start _ moves, ?_, fun before move hmakes => ?_⟩
  · simp only [hrun, ← hmatch]
    exact creation_run hwaits moves
  · obtain ⟨stage, hstage, -⟩ := continues_run _ moves hwaits
    rw [← hrun] at hstage
    exact hmakes.alikeBut hstage

/-- A provider that gives the codes of a list one after the other, whatever they are asked for. -/
structure Reel where
  /-- The codes to come. -/
  codes : List (List UInt8)

instance : CodeProvider Reel where
  code provider _ :=
    match provider.codes with
    | [] => ⟨.error ⟨"no more code", []⟩, provider, []⟩
    | code :: codes => ⟨.ok code, ⟨codes⟩, []⟩
  instructionIndex provider _ _ := ⟨.error ⟨"no trace", []⟩, provider, []⟩

/-- A contract with init code of a single byte, a source map and a generated source of its number.
-/
def createdContract (code : UInt8) (map : String) (number : UInt32) : Contract :=
  ⟨some ⟨.plain [code], some map, raceSources number, []⟩, some ⟨none, []⟩⟩

/-- Two contracts that differ in their init code. -/
def createdArtifacts : ArtifactSet :=
  .ofList [(⟨"C.sol"⟩, "A", createdContract 0x00 "0:1:0" 0),
    (⟨"C.sol"⟩, "B", createdContract 0x01 "5:1:0" 1)]

/-- Two transactions create a contract at the same step, and both are looked up at the same time.
The second lookup is given the code of one contract and keeps its generated sources. The first is
then given the code of the other, and finds the source map of that one. -/
theorem creation_lookup_fresh_of_two_codes :
    let s := new (⟨⟨[[0x00], [0x01]]⟩, []⟩ : Metered Reel) MatchPolicy.exact.accepts
    let request : Lookup := ⟨.creation 0, createdArtifacts, .map⟩
    let before := [Move.start request, .start request, .code 1]
    (s.run (before ++ [.code 0])).tasks =
        [⟨request, .done (.ok (.map ⟨⟨[⟨5, 1, 0, .regular, 0⟩]⟩, raceSources 1⟩))⟩,
          ⟨request, .done (.ok (.map ⟨⟨[⟨0, 1, 0, .regular, 0⟩]⟩, raceSources 0⟩))⟩] ∧
      s.questions 0 (before ++ [.code 0]) = [.creation 0] ∧
      ((s.run before).step (.code 0)).caches.AlikeBut (.creation 0) (s.run before).caches := by
  intro s request before
  obtain ⟨-, -, hruns⟩ := @creation_lookup_fresh Reel _ 0 createdArtifacts
  obtain ⟨hquestions, -, halike⟩ := hruns s [.start request, .code 1, .code 0]
  exact ⟨rfl, hquestions, halike before (.code 0) ⟨⟨[], rfl⟩, rfl⟩⟩

end Workload

end CodeAtlas
