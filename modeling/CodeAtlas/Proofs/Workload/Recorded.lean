import CodeAtlas.Proofs.Workload.Failure
import CodeAtlas.Proofs.Workload.Fetches
import CodeAtlas.Proofs.Workload.History
import Mathlib.Data.List.Induction

/-!
# What is recorded for an address

The caches answer two questions about an address: which generated sources are recorded for it, and
whether its source map is kept. After any run both answers tell of one event. A lookup that has
missed the caches completes (`Workload.Completes`) when the code comes that it waits for, an
artifact matches this code, and its source map can be read. What is recorded for an address are the
generated sources of the artifact that the last such completion has matched, and nothing is recorded
if there was none since everything was forgotten (`Workload.recorded_iff_lastCompleted`).

A move that completes no lookup of the address leaves both answers as they are. This holds of every
move of a lookup that finds its source map in the caches, of one that fails, and of one that is for
another address.
-/

namespace CodeAtlas

/-- Code that resolves to a source map has come, and an artifact matches it that has the generated
sources of what it resolves to. -/
theorem Caches.matched_of_resolution {isMatch : Matcher} {artifacts : ArtifactSet}
    {address : CodeAddress} {answer : Except Failure (List UInt8)} {resolved : Resolved}
    (h : resolution isMatch artifacts address answer = .ok resolved) :
    ∃ code matched, answer = .ok code ∧
      (artifacts.search isMatch address code).found = some matched ∧
      matched.generated = resolved.generated := by
  unfold resolution at h
  cases answer with
  | error failure => cases h
  | ok code =>
    have hresolve : (artifacts.search isMatch address code).resolve address = .ok resolved := h
    unfold Search.resolve at hresolve
    split at hresolve
    · cases hresolve
    · rename_i matched hfound
      split at hresolve
      · cases hresolve
      · split at hresolve
        · cases hresolve
        · cases hresolve
          exact ⟨code, matched, rfl, hfound, rfl⟩

namespace Workload

variable {σ : Type} [CodeProvider σ]

/-! ## Completions -/

/-- The lookup at a place, which is for an address and has missed the caches, completes when its
code comes: an artifact matches the code, and the request for the source map succeeds. -/
inductive Completes (s : Workload σ) (id : Nat) (address : CodeAddress)
    (matched : MatchedArtifact) : Prop
  /-- The code has come and the request has succeeded. -/
  | intro (request : Lookup) (code : List UInt8) (resolved : Resolved)
    (haddress : request.address = address)
    (hwaits : s.tasks[id]? = some ⟨request, .awaitingCode⟩)
    (hcode : (CodeProvider.code s.resolver.provider address).result = .ok code)
    (hmatched : (request.artifacts.search s.resolver.isMatch address code).found = some matched)
    (hresult : (s.resolver.fetch address request.artifacts).result = .ok resolved)

/-- A lookup that completes has matched one artifact, and it is for one address. -/
theorem Completes.unique {s : Workload σ} {id : Nat} {address address' : CodeAddress}
    {matched matched' : MatchedArtifact} (h : s.Completes id address matched)
    (h' : s.Completes id address' matched') : address = address' ∧ matched = matched' := by
  obtain ⟨request, code, resolved, rfl, hwaits, hcode, hmatched, -⟩ := h
  obtain ⟨request', code', resolved', rfl, hwaits', hcode', hmatched', -⟩ := h'
  have hrequest : request = request' := by
    rw [hwaits] at hwaits'
    cases hwaits'
    rfl
  subst hrequest
  have hsame : code = code' := by
    rw [hcode] at hcode'
    cases hcode'
    rfl
  subst hsame
  rw [hmatched] at hmatched'
  exact ⟨rfl, Option.some.inj hmatched'⟩

/-- A completion records the generated sources of the artifact for the address of the lookup, and
changes those of no other address. -/
theorem Completes.generatedFor {s : Workload σ} {id : Nat} {address : CodeAddress}
    {matched : MatchedArtifact} (h : s.Completes id address matched) (other : CodeAddress) :
    (s.step (.code id)).caches.generatedFor other =
      if other = address then some matched.generated else s.caches.generatedFor other := by
  obtain ⟨request, code, resolved, rfl, hwaits, hcode, hmatched, hresult⟩ := h
  cases hresolution : s.resolver.resolution request.address request.artifacts with
  | error error =>
    rw [(Resolver.fetch_of_error hresolution).1] at hresult
    cases hresult
  | ok own =>
    -- What the code resolves to has the generated sources of the artifact.
    obtain ⟨code', matched', hcode', hmatched', hgenerated⟩ :=
      Caches.matched_of_resolution hresolution
    rw [hcode] at hcode'
    cases hcode'
    rw [hmatched] at hmatched'
    cases hmatched'
    have hcaches : (s.step (.code id)).caches = (s.caches.record request.address own).1 := by
      simp only [step, hwaits, receiveCode, (Resolver.fetch_of_ok hresolution).2]
      rfl
    rw [hcaches, Caches.generatedFor_record, hgenerated]

/-- A move that forgets nothing and completes no lookup leaves the caches alone. -/
theorem step_caches_of_not_completes {s : Workload σ} {move : Move} (hclear : move ≠ .clear)
    (h : ∀ id address matched, move = .code id → ¬ s.Completes id address matched) :
    (s.step move).caches = s.caches := by
  have hstep := s.step_spec move
  generalize s.step move = s' at hstep ⊢
  cases hstep with
  | hit request kept hkept => rfl
  | miss request hnone => rfl
  | fail id request error htask hresolution => rfl
  | resolve id request resolved htask hresolution =>
    obtain ⟨code, matched, hcode, hmatched, -⟩ := Caches.matched_of_resolution hresolution
    have hresult := (Resolver.fetch_of_ok hresolution).1
    exact absurd ⟨request, code, _, rfl, htask, hcode, hmatched, hresult⟩
      (h id request.address matched rfl)
  | answer id request resolved htask => exact Resolver.answer_caches ..
  | idle id move hmove => rfl
  | clear => exact absurd rfl hclear

/-- A move that forgets nothing and completes no lookup of an address leaves the generated sources
of the address as they are. -/
theorem generatedFor_step_of_not_completes {s : Workload σ} {move : Move} {address : CodeAddress}
    (hclear : move ≠ .clear)
    (h : ∀ id matched, move = .code id → ¬ s.Completes id address matched) :
    (s.step move).caches.generatedFor address = s.caches.generatedFor address := by
  by_cases hother : ∃ id place matched, move = .code id ∧ s.Completes id place matched
  · obtain ⟨id, place, matched, rfl, hcompletes⟩ := hother
    have hplace : address ≠ place := by
      rintro rfl
      exact h id matched rfl hcompletes
    rw [hcompletes.generatedFor, if_neg hplace]
  · have hnone : ∀ id place matched, move = .code id → ¬ s.Completes id place matched :=
      fun id place matched hmove hcompletes => hother ⟨id, place, matched, hmove, hcompletes⟩
    rw [step_caches_of_not_completes hclear hnone]

/-! ## The last completion of a run -/

/-- In a run the lookup at a place, which is for an address, completes behind the moves `before`,
and nothing was forgotten since. -/
def Completed (s : Workload σ) (moves before : List Move) (id : Nat) (address : CodeAddress)
    (matched : MatchedArtifact) : Prop :=
  (s.run before).Completes id address matched ∧
    ∃ after, moves = before ++ .code id :: after ∧ Move.clear ∉ after

/-- The last completion of a lookup of an address in a run has matched an artifact, and nothing was
forgotten since. -/
def LastCompleted (s : Workload σ) (moves : List Move) (address : CodeAddress)
    (matched : MatchedArtifact) : Prop :=
  ∃ before id, s.Completed moves before id address matched ∧
    ∀ other place artifact, s.Completed moves other place address artifact →
      other.length ≤ before.length

/-- What has completed behind one more move has completed in this move, or it has before and nothing
is forgotten in this move. -/
theorem completed_concat {s : Workload σ} {moves before : List Move} {last : Move} {id : Nat}
    {address : CodeAddress} {matched : MatchedArtifact} :
    s.Completed (moves ++ [last]) before id address matched ↔
      (before = moves ∧ last = .code id ∧ (s.run moves).Completes id address matched) ∨
        (last ≠ .clear ∧ s.Completed moves before id address matched) := by
  constructor
  · rintro ⟨hcompletes, after, hmoves, hclear⟩
    rcases List.eq_nil_or_concat after with rfl | ⟨front, final, rfl⟩
    · obtain ⟨rfl, hlast⟩ := List.append_inj' hmoves rfl
      cases hlast
      exact .inl ⟨rfl, rfl, hcompletes⟩
    · have hsplit : moves ++ [last] = (before ++ .code id :: front) ++ [final] := by
        rw [hmoves, List.concat_eq_append, List.append_assoc, List.cons_append]
      obtain ⟨hfront, hlast⟩ := List.append_inj' hsplit rfl
      cases hlast
      rw [List.concat_eq_append, List.mem_append, List.mem_singleton, not_or] at hclear
      exact .inr ⟨fun hsame => hclear.2 hsame.symm, hcompletes, front, hfront, hclear.1⟩
  · rintro (⟨rfl, rfl, hcompletes⟩ | ⟨hlast, hcompletes, front, rfl, hclear⟩)
    · exact ⟨hcompletes, [], rfl, List.not_mem_nil⟩
    · refine ⟨hcompletes, front ++ [last], ?_, ?_⟩
      · rw [List.append_assoc, List.cons_append]
      · rw [List.mem_append, List.mem_singleton, not_or]
        exact ⟨hclear, fun hsame => hlast hsame.symm⟩

/-- What has completed has completed in front of the end of the run. -/
theorem Completed.length_lt {s : Workload σ} {moves before : List Move} {id : Nat}
    {address : CodeAddress} {matched : MatchedArtifact}
    (h : s.Completed moves before id address matched) : before.length < moves.length := by
  obtain ⟨-, after, rfl, -⟩ := h
  rw [List.length_append, List.length_cons]
  omega

/-- A move that completes a lookup of the address is the last completion. -/
theorem lastCompleted_of_completes {s : Workload σ} {moves : List Move} {id : Nat}
    {address : CodeAddress} {matched : MatchedArtifact}
    (h : (s.run moves).Completes id address matched) (artifact : MatchedArtifact) :
    s.LastCompleted (moves ++ [.code id]) address artifact ↔ artifact = matched := by
  have hnow : s.Completed (moves ++ [.code id]) moves id address matched :=
    completed_concat.mpr (.inl ⟨rfl, rfl, h⟩)
  constructor
  · rintro ⟨before, place, hcompleted, hlast⟩
    have hlate : moves.length ≤ before.length := hlast moves id matched hnow
    rcases completed_concat.mp hcompleted with ⟨-, hmove, hcompletes⟩ | ⟨-, hearlier⟩
    · cases hmove
      exact (hcompletes.unique h).2
    · have hearly := hearlier.length_lt
      omega
  · rintro rfl
    refine ⟨moves, id, hnow, fun other place later hlater => ?_⟩
    have hlength := hlater.length_lt
    rw [List.length_append, List.length_singleton] at hlength
    omega

/-- A move that forgets nothing and completes no lookup of the address leaves the last completion as
it is. -/
theorem lastCompleted_of_not_completes {s : Workload σ} {moves : List Move} {last : Move}
    {address : CodeAddress} (hclear : last ≠ .clear)
    (h : ∀ id matched, last = .code id → ¬ (s.run moves).Completes id address matched)
    (artifact : MatchedArtifact) :
    s.LastCompleted (moves ++ [last]) address artifact ↔ s.LastCompleted moves address artifact := by
  have hsame : ∀ before id matched, s.Completed (moves ++ [last]) before id address matched ↔
      s.Completed moves before id address matched := by
    intro before id matched
    rw [completed_concat]
    constructor
    · rintro (⟨-, hmove, hcompletes⟩ | ⟨-, hearlier⟩)
      · exact absurd hcompletes (h id matched hmove)
      · exact hearlier
    · exact fun hearlier => .inr ⟨hclear, hearlier⟩
  unfold LastCompleted
  simp only [hsame]

/-- Behind a move that forgets everything no completion counts. -/
theorem not_completed_clear {s : Workload σ} {moves before : List Move} {id : Nat}
    {address : CodeAddress} {matched : MatchedArtifact} :
    ¬ s.Completed (moves ++ [.clear]) before id address matched := by
  rw [completed_concat]
  rintro (⟨-, hmove, -⟩ | ⟨hclear, -⟩)
  · cases hmove
  · exact hclear rfl

/-- After every run on a new resolver the generated sources that are recorded for an address are
those of the artifact that the last completion has matched. -/
theorem generatedFor_run_iff {s : Workload σ} (hnew : ∀ place, s.caches.generatedFor place = none)
    (moves : List Move) (address : CodeAddress) (generated : List GeneratedSource) :
    (s.run moves).caches.generatedFor address = some generated ↔
      ∃ matched, s.LastCompleted moves address matched ∧ matched.generated = generated := by
  induction moves using List.reverseRecOn with
  | nil =>
    have hempty : (s.run []).caches.generatedFor address = none := hnew address
    rw [hempty]
    constructor
    · exact fun hsome => by cases hsome
    · rintro ⟨matched, ⟨before, id, hcompleted, -⟩, -⟩
      exact absurd hcompleted.length_lt (Nat.not_lt_zero _)
  | append_singleton moves last ih =>
    have hrun : s.run (moves ++ [last]) = (s.run moves).step last := run_append s moves [last]
    rw [hrun]
    by_cases hclear : last = .clear
    · subst hclear
      have hempty : ((s.run moves).step .clear).caches.generatedFor address = none := rfl
      rw [hempty]
      constructor
      · exact fun hsome => by cases hsome
      · rintro ⟨matched, ⟨before, id, hcompleted, -⟩, -⟩
        exact absurd hcompleted not_completed_clear
    · by_cases hcompletes : ∃ id matched, last = .code id ∧ (s.run moves).Completes id address matched
      · obtain ⟨id, matched, rfl, hcompletes⟩ := hcompletes
        rw [hcompletes.generatedFor, if_pos rfl]
        simp only [lastCompleted_of_completes hcompletes, exists_eq_left, Option.some.injEq]
      · have hnone : ∀ id matched, last = .code id →
            ¬ (s.run moves).Completes id address matched :=
          fun id matched hmove hdone => hcompletes ⟨id, matched, hmove, hdone⟩
        rw [generatedFor_step_of_not_completes hclear hnone, ih]
        simp only [lastCompleted_of_not_completes hclear hnone]

/-- What has completed has a last completion. -/
theorem exists_lastCompleted {s : Workload σ} {moves before : List Move} {id : Nat}
    {address : CodeAddress} {matched : MatchedArtifact}
    (h : s.Completed moves before id address matched) :
    ∃ artifact, s.LastCompleted moves address artifact := by
  -- Walk towards the end of the run as long as there is a later completion.
  by_cases hlast : ∀ other place artifact, s.Completed moves other place address artifact →
      other.length ≤ before.length
  · exact ⟨matched, before, id, h, hlast⟩
  · obtain ⟨other, place, artifact, hother, hlater⟩ : ∃ other place artifact,
        s.Completed moves other place address artifact ∧ before.length < other.length := by
      simpa only [Classical.not_forall, exists_prop, Nat.not_le] using hlast
    have hfront := h.length_lt
    have hbound := hother.length_lt
    exact exists_lastCompleted hother
termination_by moves.length - before.length

/-! ## Lookups that complete, and lookups that do not -/

/-- A lookup that waits for code behind a move has waited before, or it has begun in this move and
has missed the caches. -/
theorem awaitingCode_of_step {s : Workload σ} {move : Move} {id : Nat} {request : Lookup}
    (h : (s.step move).tasks[id]? = some ⟨request, .awaitingCode⟩) :
    s.tasks[id]? = some ⟨request, .awaitingCode⟩ ∨
      (s.mover move = some id ∧ move = .start request ∧
        s.caches.cached request.address = none) := by
  by_cases hmover : s.mover move = some id
  · cases move with
    | start begun =>
      obtain rfl : s.tasks.length = id := Option.some.inj hmover
      simp only [step, begin] at h
      cases hstart : s.caches.start begun.address with
      | none =>
        simp only [hstart, List.getElem?_concat_length] at h
        cases h
        exact .inr ⟨hmover, rfl, hstart⟩
      | some kept =>
        simp only [hstart, List.getElem?_concat_length] at h
        have hstage : begun.proceed kept = .awaitingCode :=
          congrArg Task.stage (Option.some.inj h)
        exact absurd hstage (begun.follows_follow (.ok kept)).ne_awaitingCode
    | code other =>
      obtain rfl : other = id := Option.some.inj hmover
      have hbegun : other < s.tasks.length := by
        refine Nat.lt_of_not_le fun hlate => ?_
        have hbefore : s.tasks[other]? = none := List.getElem?_eq_none hlate
        simp only [step, hbefore] at h
        cases h
      have hawaited : (s.step (.code other)).awaited other = [] := awaited_step_code hbegun
      simp only [awaited, h] at hawaited
      cases hawaited
    | index other =>
      obtain rfl : other = id := Option.some.inj hmover
      cases advance_index h with
      | ends turn hbefore hturn hstage => cases hturn
      | waits hbefore hturn hstage =>
        simp only [step, hbefore] at h
        cases h
      | answers resolved hbefore hturn hstage => cases hstage
      | idles hbefore hturn => exact .inl hbefore
    | clear => cases hmover
  · rw [step_of_not_mover hmover] at h
    exact .inl h

/-- A lookup that waits for code in a run has begun in it without a kept source map. -/
theorem missed_of_awaitingCode {s : Workload σ} (hnew : s.tasks = []) {moves : List Move} {id : Nat}
    {request : Lookup} (h : (s.run moves).tasks[id]? = some ⟨request, .awaitingCode⟩) :
    ∃ before, s.Makes moves id before (.start request) ∧
      (s.run before).caches.cached request.address = none := by
  induction moves using List.reverseRecOn with
  | nil =>
    have hnone : s.tasks[id]? = some ⟨request, .awaitingCode⟩ := h
    rw [hnew, List.getElem?_nil] at hnone
    cases hnone
  | append_singleton moves last ih =>
    have hrun : s.run (moves ++ [last]) = (s.run moves).step last := run_append s moves [last]
    rw [hrun] at h
    rcases awaitingCode_of_step h with hbefore | ⟨hmover, rfl, hnone⟩
    · obtain ⟨before, hmakes, hnone⟩ := ih hbefore
      exact ⟨before, makes_concat.mpr (.inl hmakes), hnone⟩
    · exact ⟨moves, makes_concat.mpr (.inr ⟨rfl, rfl, hmover⟩), hnone⟩

/-- In a run the lookup at a place has begun with a source map that is kept. -/
def Hit (s : Workload σ) (moves : List Move) (id : Nat) : Prop :=
  ∃ before request kept, s.Makes moves id before (.start request) ∧
    (s.run before).caches.cached request.address = some kept

/-- No move of a lookup that finds its source map in the caches changes them. -/
theorem Story.keepsCaches_of_hit {s : Workload σ} {moves : List Move} {id : Nat} {request : Lookup}
    {stage : Stage} (h : Story s moves id (some ⟨request, stage⟩)) (hhit : s.Hit moves id)
    {before : List Move} {move : Move} (hmakes : s.Makes moves id before move) :
    s.KeepsCaches before move := by
  obtain ⟨start, begun, kept, hstart, hkept⟩ := hhit
  have hturn : (s.run start).mapTurn (.start begun) = some ⟨.ok kept, (s.run start).resolver, []⟩ := by
    have hfound : (s.run start).caches.start begun.address = some kept := hkept
    simp only [mapTurn, hfound, Option.map_some]
  by_cases hsame : before = start
  · subst hsame
    obtain rfl := hmakes.unique hstart
    unfold KeepsCaches
    rw [step_caches hmakes.2, hturn]
    rfl
  · exact hmakes.keepsCaches ((h.of_mapTurn hstart hturn).2 before move hmakes hsame)

/-- The move behind the moves `before` changes neither the generated sources of an address nor
whether its source map is kept. -/
def KeepsAnswers (s : Workload σ) (before : List Move) (move : Move) (address : CodeAddress) :
    Prop :=
  ((s.run before).step move).caches.generatedFor address =
      (s.run before).caches.generatedFor address ∧
    ((s.run before).step move).caches.isCached address = (s.run before).caches.isCached address

/-- A move that keeps the caches keeps what they answer. -/
theorem KeepsCaches.keepsAnswers {s : Workload σ} {before : List Move} {move : Move}
    (h : s.KeepsCaches before move) (address : CodeAddress) :
    s.KeepsAnswers before move address := by
  have hcaches : ((s.run before).step move).caches = (s.run before).caches := h
  unfold KeepsAnswers
  rw [hcaches]
  exact ⟨rfl, rfl⟩

/-- After every run on a new resolver, whatever lookups are under way together and whenever
everything is forgotten, and for every address:

* the generated sources that are recorded for the address are those of the artifact that the last
  completion of a lookup of the address has matched, and none are recorded if there was no such
  completion since everything was forgotten;
* a lookup that completes has begun without a kept source map, and its request has succeeded;
* the source map of a deployed address is kept if and only if generated sources are recorded for it;
* no move changes either answer for the address if it is made by a lookup of another address, by one
  that has found its source map in the caches, or by one whose request for a source map has failed.
-/
theorem recorded_iff_lastCompleted {s : Workload σ} {provider : σ} {isMatch : Matcher}
    (hnew : s = new provider isMatch) (moves : List Move) (address : CodeAddress) :
    (∀ generated, (s.run moves).caches.generatedFor address = some generated ↔
      ∃ matched, s.LastCompleted moves address matched ∧ matched.generated = generated) ∧
    ((s.run moves).caches.generatedFor address = none ↔
      ∀ before id matched, ¬ s.Completed moves before id address matched) ∧
    (∀ before id matched, s.Completed moves before id address matched →
      (∃ request earlier, request.address = address ∧ s.Makes before id earlier (.start request) ∧
        (s.run earlier).caches.cached address = none) ∧
      ∃ resolved, s.MapResult moves id (.ok resolved)) ∧
    (address.isCreation = false → ((s.run moves).caches.isCached address = true ↔
      ((s.run moves).caches.generatedFor address).isSome = true)) ∧
    ∀ id request stage, (s.run moves).tasks[id]? = some ⟨request, stage⟩ →
      (request.address ≠ address ∨ s.Hit moves id ∨
        (∃ error, s.MapResult moves id (.error error)) ∨
        ∃ error, request.query = .map ∧ stage = .done (.error error)) →
      ∀ before move, s.Makes moves id before move → s.KeepsAnswers before move address := by
  have hempty : ∀ place, s.caches.generatedFor place = none := fun place => by
    rw [hnew]
    rfl
  have htasks : s.tasks = [] := by
    rw [hnew]
    rfl
  have hreachable : (s.run moves).Reachable := ⟨provider, isMatch, moves, by rw [hnew]⟩
  have hrecorded := generatedFor_run_iff hempty moves address
  refine ⟨hrecorded, ⟨?_, ?_⟩, ?_, fun hdeployed => ?_, ?_⟩
  · intro hnone before id matched hcompleted
    obtain ⟨artifact, hlast⟩ := exists_lastCompleted hcompleted
    have hsome := (hrecorded artifact.generated).mpr ⟨artifact, hlast, rfl⟩
    rw [hnone] at hsome
    cases hsome
  · intro hnever
    refine Option.eq_none_iff_forall_ne_some.mpr fun generated hsome => ?_
    obtain ⟨matched, ⟨before, id, hcompleted, -⟩, -⟩ := (hrecorded generated).mp hsome
    exact hnever before id matched hcompleted
  · rintro before id matched ⟨hcompletes, after, rfl, -⟩
    obtain ⟨request, code, resolved, rfl, hwaits, -, -, hresult⟩ := hcompletes
    obtain ⟨earlier, hmakes, hnone⟩ := missed_of_awaitingCode htasks hwaits
    refine ⟨⟨request, earlier, rfl, hmakes, hnone⟩, resolved, before, .code id, _, ⟨⟨after, ?_⟩, rfl⟩,
      mapTurn_code hwaits, hresult⟩
    rw [List.append_assoc, List.cons_append, List.nil_append]
  · rw [hreachable.remembers.isCached_eq hdeployed]
  · intro id request stage htask hquiet before move hmakes
    have hbegins : s.tasks[id]? = none := by rw [htasks, List.getElem?_nil]
    have hstory : Story s moves id (some ⟨request, stage⟩) := htask ▸ story_run hbegins moves
    rcases hquiet with hother | hhit | ⟨error, hfails⟩ | ⟨error, hquery, rfl⟩
    · have halike := hmakes.alikeBut htask address (Ne.symm hother)
      refine ⟨halike.2, ?_⟩
      unfold Caches.isCached
      rw [halike.1]
    · exact (hstory.keepsCaches_of_hit hhit hmakes).keepsAnswers address
    · exact ((hstory.keepsCaches hfails).2 before move hmakes).keepsAnswers address
    · rcases hstory.mapResult_of_error with hfails | ⟨hmore, -⟩
      · exact ((hstory.keepsCaches hfails).2 before move hmakes).keepsAnswers address
      · exact absurd hquery hmore

/-- Of two lookups that race the second to get its code is the last that completes, and the
generated sources of its artifact are recorded. -/
theorem recorded_of_race :
    let s := new raceTrace MatchPolicy.exact.accepts
    ∃ matched, s.LastCompleted
        [.start ⟨.deployed .sample, raceArtifacts 0, .map⟩,
          .start ⟨.deployed .sample, raceArtifacts 1, .map⟩, .code 1, .code 0]
        (.deployed .sample) matched ∧
      matched.generated = raceSources 0 := by
  intro s
  obtain ⟨hrecorded, -⟩ := recorded_iff_lastCompleted (s := s) rfl
    [.start ⟨.deployed .sample, raceArtifacts 0, .map⟩,
      .start ⟨.deployed .sample, raceArtifacts 1, .map⟩, .code 1, .code 0] (.deployed .sample)
  exact (hrecorded (raceSources 0)).mp rfl

end Workload

end CodeAtlas
