import CodeAtlas.Proofs.Trace.Answers
import CodeAtlas.Proofs.Workload.Creation

/-!
# A clear erases the history

What a resolver has done before everything that is kept is forgotten shows in no later answer, if no
lookup is under way at the clear (`clear_erases_history`). From the clear on the resolver does what
a new one does over a provider with the same code and the same steps, move by move (`Mirrors.run`).
The relation that every move carries over is `Mirrors`: the caches are equal, the lookups begun
since the clear have come equally far, and both providers have only been asked questions. The
providers themselves may differ, as the cleared resolver goes on with the instruction maps that it
has. Over steady providers with the same answers this does not show.

A new resolver has nothing but what its own lookups have resolved (`Epoch.Covers`), so nothing that
was resolved before a clear comes back behind it.
-/

namespace CodeAtlas

/-! ## Counting from a point on -/

/-- A move when the lookups begun before some point are left out of the count. An answer for one of
these is left out itself. -/
def Move.since (count : Nat) : Move → Option Move
  | .start request => some (.start request)
  | .code id => if count ≤ id then some (.code (id - count)) else none
  | .index id => if count ≤ id then some (.index (id - count)) else none
  | .clear => some .clear

/-- The moves of a lookup that is counted. -/
theorem Move.since_of_le {count id : Nat} (h : count ≤ id) :
    (Move.code id).since count = some (.code (id - count)) ∧
      (Move.index id).since count = some (.index (id - count)) :=
  ⟨if_pos h, if_pos h⟩

/-- The moves of a lookup that is left out. -/
theorem Move.since_of_lt {count id : Nat} (h : id < count) :
    (Move.code id).since count = none ∧ (Move.index id).since count = none :=
  ⟨if_neg (Nat.not_le.mpr h), if_neg (Nat.not_le.mpr h)⟩

/-- No lookup is under way: each has come to its end or is given up, so that no answer comes for it
any more. -/
def NoneUnderWay (tasks : List Task) (later : List Move) : Prop :=
  ∀ id task, tasks[id]? = some task →
    (∃ result, task.stage = .done result) ∨ (.code id ∉ later ∧ .index id ∉ later)

/-- No lookup is under way after the first of the later moves either. -/
theorem NoneUnderWay.tail {tasks : List Task} {move : Move} {later : List Move}
    (h : NoneUnderWay tasks (move :: later)) : NoneUnderWay tasks later := by
  intro id task htask
  refine (h id task htask).imp_right fun hgiven => ?_
  exact ⟨List.not_mem_of_not_mem_cons hgiven.1, List.not_mem_of_not_mem_cons hgiven.2⟩

namespace Workload

variable {σ τ υ : Type}

/-! ## Equal answers -/

/-- Not counting their first lookups, two workloads give the same answers. -/
structure AnswersAlike (s : Workload σ) (count : Nat) (s' : Workload τ) (count' : Nat) : Prop where
  /-- The lookups have come equally far, and to the same results. -/
  tasks : s.tasks.drop count = s'.tasks.drop count'
  /-- For the same addresses a source map is kept. -/
  isCached : ∀ address, s.caches.isCached address = s'.caches.isCached address
  /-- For each address the same generated sources are kept. -/
  generatedFor : ∀ address, s.caches.generatedFor address = s'.caches.generatedFor address

/-- The answers may be compared the other way round. -/
theorem AnswersAlike.symm {s : Workload σ} {count : Nat} {s' : Workload τ} {count' : Nat}
    (h : AnswersAlike s count s' count') : AnswersAlike s' count' s count :=
  ⟨h.tasks.symm, fun address => (h.isCached address).symm,
    fun address => (h.generatedFor address).symm⟩

/-- Workloads that give the answers of one and the same give the same answers. -/
theorem AnswersAlike.trans {s : Workload σ} {count : Nat} {s' : Workload τ}
    {count' : Nat} {s'' : Workload υ} {count'' : Nat} (h : AnswersAlike s count s' count')
    (h' : AnswersAlike s' count' s'' count'') : AnswersAlike s count s'' count'' :=
  ⟨h.tasks.trans h'.tasks, fun address => (h.isCached address).trans (h'.isCached address),
    fun address => (h.generatedFor address).trans (h'.generatedFor address)⟩

variable [CodeProvider σ] [CodeProvider τ]

/-! ## Providers that are asked -/

/-- Every move asks the provider questions and does nothing else to it. -/
theorem Step.asked {provider : σ} {s s' : Workload σ} {move : Move} (hstep : Step s move s')
    (h : Asked provider s.resolver.provider) : Asked provider s'.resolver.provider := by
  cases hstep with
  | hit request kept hkept => exact h
  | miss request hnone => exact h
  | fail id request error htask hresolution => exact h.code request.address
  | resolve id request resolved htask hresolution => exact h.code request.address
  | answer id request resolved htask => exact h.answer request resolved
  | idle id move hmove => exact h
  | clear => exact h

/-- So does every run. -/
theorem asked_run (s : Workload σ) (moves : List Move) :
    Asked s.resolver.provider (s.run moves).resolver.provider :=
  run_induction (P := fun later => Asked s.resolver.provider later.resolver.provider)
    (fun _ _ _ _ hstep h => hstep.asked h) .refl

/-- A run keeps the matcher. -/
theorem isMatch_run (s : Workload σ) (moves : List Move) :
    (s.run moves).resolver.isMatch = s.resolver.isMatch :=
  run_induction (P := fun later => later.resolver.isMatch = s.resolver.isMatch)
    (fun _ _ _ _ hstep h => hstep.isMatch.trans h) rfl

/-! ## Two resolvers side by side -/

/-- A lookup ends if the code that comes for it resolves to nothing. -/
theorem receiveCode_of_error {s : Workload σ} {request : Lookup} {error : LookupError} (id : Nat)
    (h : s.resolver.resolution request.address request.artifacts = .error error) :
    s.receiveCode id request =
      { s with
        resolver := s.resolver.asked request.address
        tasks := s.tasks.set id ⟨request, .done (.error error)⟩ } := by
  obtain ⟨hresult, hresolver⟩ := Resolver.fetch_of_error h
  unfold receiveCode
  simp only [h, hresult, hresolver, List.append_nil]

/-- A lookup goes on with what is kept then if the code that comes for it resolves to a source
map. -/
theorem receiveCode_of_ok {s : Workload σ} {request : Lookup} {resolved : Resolved} (id : Nat)
    (h : s.resolver.resolution request.address request.artifacts = .ok resolved) :
    s.receiveCode id request =
      { resolver := s.resolver.recorded request.address resolved
        tasks := s.tasks.set id
          ⟨request, request.proceed ((s.caches.cached request.address).getD resolved)⟩
        found := s.found ++ [(request.address, resolved)] } := by
  obtain ⟨hresult, hresolver⟩ := Resolver.fetch_of_ok h
  unfold receiveCode
  simp only [h, hresult, hresolver]

/-- A workload has come as far as another one, besides lookups that it had before. -/
structure Mirrors (provider : σ) (provider' : τ) (old : List Task) (s : Workload σ)
    (s' : Workload τ) : Prop where
  /-- Behind the lookups that it had, it has those of the other one. -/
  tasks : s.tasks = old ++ s'.tasks
  /-- Both keep the same. -/
  caches : s.caches = s'.caches
  /-- Both have the same matcher. -/
  isMatch : s.resolver.isMatch = s'.resolver.isMatch
  /-- Its provider was asked questions and nothing else. -/
  asked : Asked provider s.resolver.provider
  /-- So was the provider of the other one. -/
  asked' : Asked provider' s'.resolver.provider

variable {provider : σ} {provider' : τ} {code : CodeAddress → Except Failure (List UInt8)}
  {index : CodeAddress → Nat → Except Failure Nat} {old : List Task} {s : Workload σ}
  {s' : Workload τ}

/-- A lookup begins on both in the same way. -/
theorem Mirrors.step_start (h : Mirrors provider provider' old s s') (request : Lookup) :
    Mirrors provider provider' old (s.step (.start request)) (s'.step (.start request)) := by
  have happend : ∀ task, s.tasks ++ [task] = old ++ (s'.tasks ++ [task]) := by
    intro task
    rw [h.tasks, List.append_assoc]
  have hstart : s.caches.start request.address = s'.caches.start request.address := by
    rw [h.caches]
  show Mirrors provider provider' old (s.begin request) (s'.begin request)
  unfold begin
  rw [hstart]
  cases s'.caches.start request.address with
  | some kept => exact ⟨happend _, h.caches, h.isMatch, h.asked, h.asked'⟩
  | none => exact ⟨happend _, h.caches, h.isMatch, h.asked, h.asked'⟩

/-- The lookup at a place behind those of before is the one that the other workload has there. -/
theorem Mirrors.getElem?_tasks (h : Mirrors provider provider' old s s') {id : Nat}
    (hid : old.length ≤ id) : s.tasks[id]? = s'.tasks[id - old.length]? := by
  rw [h.tasks, List.getElem?_append_right hid]

/-- A lookup that goes on goes on in both. -/
theorem Mirrors.set_tasks (h : Mirrors provider provider' old s s') {id : Nat}
    (hid : old.length ≤ id) (task : Task) :
    s.tasks.set id task = old ++ s'.tasks.set (id - old.length) task := by
  rw [h.tasks, List.set_append_right _ _ hid]

/-- The code that comes for a lookup does the same to both. -/
theorem Mirrors.step_code (h : Mirrors provider provider' old s s')
    (hsteady : Steady provider code index) (hsteady' : Steady provider' code index) {id : Nat}
    (hid : old.length ≤ id) :
    Mirrors provider provider' old (s.step (.code id)) (s'.step (.code (id - old.length))) := by
  have htask := h.getElem?_tasks hid
  simp only [step, htask]
  split
  · rename_i request hwaits
    -- The providers answer alike, and nothing else decides what the code resolves to.
    have hresolution : s.resolver.resolution request.address request.artifacts =
        s'.resolver.resolution request.address request.artifacts := by
      rw [hsteady.resolution_eq h.asked, hsteady'.resolution_eq h.asked', h.isMatch]
    cases hother : s'.resolver.resolution request.address request.artifacts with
    | error error =>
      rw [receiveCode_of_error id (hresolution.trans hother), receiveCode_of_error _ hother]
      exact ⟨h.set_tasks hid _, h.caches, h.isMatch, h.asked.code _, h.asked'.code _⟩
    | ok resolved =>
      rw [receiveCode_of_ok id (hresolution.trans hother), receiveCode_of_ok _ hother, h.caches]
      have hrecord : (s.caches.record request.address resolved).1 =
          (s'.caches.record request.address resolved).1 := by
        rw [h.caches]
      exact ⟨h.set_tasks hid _, hrecord, h.isMatch, h.asked.code _, h.asked'.code _⟩
  · exact h

/-- The index that comes for a lookup does the same to both. -/
theorem Mirrors.step_index (h : Mirrors provider provider' old s s')
    (hsteady : Steady provider code index) (hsteady' : Steady provider' code index) {id : Nat}
    (hid : old.length ≤ id) :
    Mirrors provider provider' old (s.step (.index id)) (s'.step (.index (id - old.length))) := by
  have htask := h.getElem?_tasks hid
  simp only [step, htask]
  split
  · rename_i request resolved hwaits
    have hresult : (s.resolver.answer request resolved).result =
        (s'.resolver.answer request resolved).result := by
      rw [hsteady.answer_result h.asked, hsteady'.answer_result h.asked']
    constructor
    case tasks =>
      show s.tasks.set id ⟨request, .done (s.resolver.answer request resolved).result⟩ = _
      rw [hresult]
      exact h.set_tasks hid _
    case caches =>
      show (s.resolver.answer request resolved).resolver.caches =
        (s'.resolver.answer request resolved).resolver.caches
      rw [Resolver.answer_caches, Resolver.answer_caches]
      exact h.caches
    case isMatch =>
      show (s.resolver.answer request resolved).resolver.isMatch =
        (s'.resolver.answer request resolved).resolver.isMatch
      rw [Resolver.answer_isMatch, Resolver.answer_isMatch]
      exact h.isMatch
    case asked => exact h.asked.answer request resolved
    case asked' => exact h.asked'.answer request resolved
  · exact h

/-- A lookup of before for which an answer comes is done, as none of these is under way. -/
theorem Mirrors.done_of_lt (h : Mirrors provider provider' old s s') {later : List Move}
    (hquiet : NoneUnderWay old later) {id : Nat} (hid : id < old.length)
    (hanswer : .code id ∈ later ∨ .index id ∈ later) :
    ∃ request result, s.tasks[id]? = some ⟨request, .done result⟩ := by
  have hold : old[id]? = some old[id] := List.getElem?_eq_getElem hid
  have htask : s.tasks[id]? = some old[id] := by
    rw [h.tasks, List.getElem?_append_left hid, hold]
  rcases hquiet id old[id] hold with ⟨result, hresult⟩ | ⟨hcode, hindex⟩
  · exact ⟨old[id].request, result, by rw [htask, ← hresult]⟩
  · rcases hanswer with hmem | hmem
    · exact absurd hmem hcode
    · exact absurd hmem hindex

/-- A move does the same to both, unless it is an answer for a lookup of before. Such an answer does
nothing. -/
theorem Mirrors.step (h : Mirrors provider provider' old s s')
    (hsteady : Steady provider code index) (hsteady' : Steady provider' code index)
    {move : Move} {later : List Move} (hquiet : NoneUnderWay old (move :: later)) :
    Mirrors provider provider' old (s.step move)
      ((move.since old.length).elim s' s'.step) := by
  cases move with
  | start request => exact h.step_start request
  | code id =>
    -- An answer for a lookup of before comes too late.
    rcases Nat.lt_or_ge id old.length with hid | hid
    · obtain ⟨request, result, htask⟩ := h.done_of_lt hquiet hid (.inl List.mem_cons_self)
      rw [(Move.since_of_lt hid).1]
      simp only [Workload.step, htask]
      exact h
    · rw [(Move.since_of_le hid).1]
      exact h.step_code hsteady hsteady' hid
  | index id =>
    rcases Nat.lt_or_ge id old.length with hid | hid
    · obtain ⟨request, result, htask⟩ := h.done_of_lt hquiet hid (.inr List.mem_cons_self)
      rw [(Move.since_of_lt hid).2]
      simp only [Workload.step, htask]
      exact h
    · rw [(Move.since_of_le hid).2]
      exact h.step_index hsteady hsteady' hid
  | clear => exact ⟨h.tasks, rfl, h.isMatch, h.asked, h.asked'⟩

/-- Over providers with the same answers a run does the same to both, if no lookup of before is
under way. -/
theorem Mirrors.run (h : Mirrors provider provider' old s s')
    (hsteady : Steady provider code index) (hsteady' : Steady provider' code index)
    {later : List Move} (hquiet : NoneUnderWay old later) :
    Mirrors provider provider' old (s.run later)
      (s'.run (later.filterMap (·.since old.length))) := by
  -- A move that is not counted leaves the other workload where it is.
  induction later generalizing s s' with
  | nil => exact h
  | cons move later ih =>
    have hstep := ih (h.step hsteady hsteady' hquiet) hquiet.tail
    cases hsince : move.since old.length with
    | none =>
      rw [List.filterMap_cons_none hsince]
      rwa [hsince] at hstep
    | some counted =>
      rw [List.filterMap_cons_some hsince]
      rwa [hsince] at hstep

/-- After a clear a workload has come as far as a new one, besides the lookups that it had. -/
theorem mirrors_clear (hasked : Asked provider s.resolver.provider) (provider' : τ) :
    Mirrors provider provider' s.tasks (s.step .clear) (new provider' s.resolver.isMatch) where
  tasks := (List.append_nil _).symm
  caches := rfl
  isMatch := rfl
  asked := hasked
  asked' := .refl

end Workload

/-! ## What is resolved since a clear -/

/-- What decides all answers from a clear on. -/
structure Epoch where
  /-- The answers to questions for code. -/
  code : CodeAddress → Except Failure (List UInt8)
  /-- The answers to questions for instructions. -/
  index : CodeAddress → Nat → Except Failure Nat
  /-- Which running code is a form of which candidate. -/
  isMatch : Matcher
  /-- What happens from then on. -/
  later : List Move

namespace Epoch

variable {epoch : Epoch}

/-- The code at an address resolves to something with the artifacts of a lookup that begins from
the clear on. -/
def Resolves (epoch : Epoch) (address : CodeAddress) (result : Except LookupError Resolved) :
    Prop :=
  ∃ request : Lookup, .start request ∈ epoch.later ∧ request.address = address ∧
    Caches.resolution epoch.isMatch request.artifacts address (epoch.code address) = result

/-- A lookup has come to a stage with what the code at its address resolves to. -/
def Fits (epoch : Epoch) (request : Lookup) : Stage → Prop
  | .awaitingCode => True
  | .awaitingIndex resolved => epoch.Resolves request.address (.ok resolved)
  | .done result => ∃ resolution, epoch.Resolves request.address resolution ∧
    result = request.outcomeOf epoch.index resolution

/-- Lookups and caches have nothing but what was resolved from the clear on. -/
structure Covers (epoch : Epoch) (tasks : List Task) (caches : Caches) : Prop where
  /-- Every lookup has begun from the clear on and has come as far as it has with what was resolved
  since. -/
  tasks : ∀ (id : Nat) (request : Lookup) (stage : Stage), tasks[id]? = some ⟨request, stage⟩ →
    .start request ∈ epoch.later ∧ epoch.Fits request stage
  /-- A source map that is kept was resolved since. -/
  cached : ∀ address kept, caches.cached address = some kept → epoch.Resolves address (.ok kept)
  /-- Generated sources that are kept belong to a source map that was resolved since. -/
  generatedFor : ∀ address generated, caches.generatedFor address = some generated →
    ∃ resolved, epoch.Resolves address (.ok resolved) ∧ generated = resolved.generated

/-- A lookup that has its source map waits for an index or has come to its end with it. -/
theorem fits_proceed {request : Lookup} {resolved : Resolved}
    (h : epoch.Resolves request.address (.ok resolved)) :
    epoch.Fits request (request.proceed resolved) := by
  have hdone : epoch.Fits request (.done (request.outcome epoch.index resolved)) :=
    ⟨.ok resolved, h, rfl⟩
  unfold Lookup.outcome at hdone
  unfold Lookup.proceed
  cases hquery : request.query with
  | map =>
    rw [hquery] at hdone
    exact hdone
  | atIndex place =>
    rw [hquery] at hdone
    exact hdone
  | atStep step => exact h

/-- A lookup goes on with something that was resolved, whether or not another was faster. -/
theorem resolves_getD {caches : Caches} {address : CodeAddress} {resolved : Resolved}
    (hcached : ∀ kept, caches.cached address = some kept → epoch.Resolves address (.ok kept))
    (hresolved : epoch.Resolves address (.ok resolved)) :
    epoch.Resolves address (.ok ((caches.cached address).getD resolved)) := by
  cases hkept : caches.cached address with
  | none => exact hresolved
  | some kept => exact hcached kept hkept

end Epoch

namespace Workload

variable {σ τ : Type} [CodeProvider σ] [CodeProvider τ]

/-- A workload on a new resolver has come to where it is by the lookups of an epoch. -/
structure Within (provider : σ) (epoch : Epoch) (s : Workload σ) : Prop where
  /-- The provider was asked questions and nothing else. -/
  asked : Asked provider s.resolver.provider
  /-- The matcher is the one of the epoch. -/
  isMatch : s.resolver.isMatch = epoch.isMatch
  /-- Everything comes from the lookups of the epoch. -/
  covers : epoch.Covers s.tasks s.caches

variable {provider : σ} {epoch : Epoch} {s s' : Workload σ}

/-- What the code that comes for a lookup resolves to is resolved in the epoch. -/
theorem Within.resolves (h : s.Within provider epoch)
    (hsteady : Steady provider epoch.code epoch.index) {id : Nat} {request : Lookup} {stage : Stage}
    (htask : s.tasks[id]? = some ⟨request, stage⟩) {result : Except LookupError Resolved}
    (hresolution : s.resolver.resolution request.address request.artifacts = result) :
    epoch.Resolves request.address result := by
  obtain ⟨hstarted, -⟩ := h.covers.tasks id request stage htask
  rw [hsteady.resolution_eq h.asked, h.isMatch] at hresolution
  exact ⟨request, hstarted, rfl, hresolution⟩

/-- A source map that is kept after a move was resolved in the epoch. -/
theorem Step.cached_within {move : Move} (hstep : Step s move s') (h : s.Within provider epoch)
    (hsteady : Steady provider epoch.code epoch.index) (address : CodeAddress) (kept : Resolved)
    (hkept : s'.caches.cached address = some kept) : epoch.Resolves address (.ok kept) := by
  cases hstep with
  | hit request found hfound => exact h.covers.cached address kept hkept
  | miss request hnone => exact h.covers.cached address kept hkept
  | fail id request error htask hresolution => exact h.covers.cached address kept hkept
  | resolve id request resolved htask hresolution =>
    have hrecorded : (s.caches.record request.address resolved).1.cached address =
      some kept := hkept
    rw [Caches.cached_record] at hrecorded
    -- What is kept for the address was there before, or it is what has just been resolved.
    split at hrecorded
    · rename_i hsame
      cases hrecorded
      rw [hsame.1]
      exact Epoch.resolves_getD (h.covers.cached _) (h.resolves hsteady htask hresolution)
    · exact h.covers.cached address kept hrecorded
  | answer id request resolved htask =>
    rw [caches, Resolver.answer_caches] at hkept
    exact h.covers.cached address kept hkept
  | idle id move hmove => exact h.covers.cached address kept hkept
  | clear =>
    rw [caches, Caches.cached_empty] at hkept
    cases hkept

/-- Generated sources that are kept after a move belong to a source map resolved in the epoch. -/
theorem Step.generatedFor_within {move : Move} (hstep : Step s move s')
    (h : s.Within provider epoch) (hsteady : Steady provider epoch.code epoch.index)
    (address : CodeAddress) (generated : List GeneratedSource)
    (hgenerated : s'.caches.generatedFor address = some generated) :
    ∃ resolved, epoch.Resolves address (.ok resolved) ∧ generated = resolved.generated := by
  cases hstep with
  | hit request found hfound => exact h.covers.generatedFor address generated hgenerated
  | miss request hnone => exact h.covers.generatedFor address generated hgenerated
  | fail id request error htask hresolution =>
    exact h.covers.generatedFor address generated hgenerated
  | resolve id request resolved htask hresolution =>
    have hrecorded : (s.caches.record request.address resolved).1.generatedFor address =
      some generated := hgenerated
    rw [Caches.generatedFor_record] at hrecorded
    split at hrecorded
    · rename_i hsame
      cases hrecorded
      rw [hsame]
      exact ⟨resolved, h.resolves hsteady htask hresolution, rfl⟩
    · exact h.covers.generatedFor address generated hrecorded
  | answer id request resolved htask =>
    rw [caches, Resolver.answer_caches] at hgenerated
    exact h.covers.generatedFor address generated hgenerated
  | idle id move hmove => exact h.covers.generatedFor address generated hgenerated
  | clear => cases hgenerated

/-- A lookup has come to its stage after a move with what was resolved in the epoch. -/
theorem Step.fits_within {move : Move} (hstep : Step s move s') (h : s.Within provider epoch)
    (hsteady : Steady provider epoch.code epoch.index) (hmove : move ∈ epoch.later) {id : Nat}
    {request : Lookup} {stage : Stage} (htask : s'.tasks[id]? = some ⟨request, stage⟩) :
    .start request ∈ epoch.later ∧ epoch.Fits request stage := by
  cases hstep.origin htask with
  | same hbefore => exact h.covers.tasks id request stage hbefore
  | hit kept hstart hkept hstage =>
    rw [hstage]
    exact ⟨hstart ▸ hmove, Epoch.fits_proceed (hstep.cached_within h hsteady _ kept hkept)⟩
  | miss hstart hstage =>
    rw [hstage]
    exact ⟨hstart ▸ hmove, trivial⟩
  | fail error hbefore hresolution hstage =>
    obtain ⟨hstarted, -⟩ := h.covers.tasks id request _ hbefore
    rw [hstage]
    exact ⟨hstarted, .error error, h.resolves hsteady hbefore hresolution, rfl⟩
  | resolve resolved hbefore hresolution hresolver hstage =>
    obtain ⟨hstarted, -⟩ := h.covers.tasks id request _ hbefore
    have hresolves := h.resolves hsteady hbefore hresolution
    rw [hstage]
    exact ⟨hstarted, Epoch.fits_proceed (Epoch.resolves_getD (h.covers.cached _) hresolves)⟩
  | answer resolved hbefore hstage =>
    obtain ⟨hstarted, hresolves⟩ := h.covers.tasks id request _ hbefore
    rw [hstage, hsteady.answer_result h.asked]
    exact ⟨hstarted, .ok resolved, hresolves, rfl⟩

/-- Every move of an epoch stays within it. -/
theorem Step.within {move : Move} (hstep : Step s move s')
    (hsteady : Steady provider epoch.code epoch.index) (hmove : move ∈ epoch.later)
    (h : s.Within provider epoch) : s'.Within provider epoch where
  asked := hstep.asked h.asked
  isMatch := hstep.isMatch.trans h.isMatch
  covers :=
    { tasks := fun _ _ _ htask => hstep.fits_within h hsteady hmove htask
      cached := hstep.cached_within h hsteady
      generatedFor := hstep.generatedFor_within h hsteady }

/-- A run on a new resolver stays within the epoch of its moves. -/
theorem within_run (hsteady : Steady provider epoch.code epoch.index) :
    ((new provider epoch.isMatch).run epoch.later).Within provider epoch := by
  refine run_induction (fun _ _ _ hmem hstep h => hstep.within hsteady hmem h) ?_
  constructor
  case asked => exact .refl
  case isMatch => rfl
  case covers =>
    constructor
    case tasks => exact fun id request stage htask => by cases htask
    case cached =>
      intro address kept hkept
      rw [caches, new, Caches.cached_empty] at hkept
      cases hkept
    case generatedFor => exact fun address generated hgenerated => by cases hgenerated

/-! ## Before and after a clear -/

/-- Moves as they are when only the lookups that begin from a workload on are counted. -/
def counted (s : Workload σ) (later : List Move) : List Move :=
  later.filterMap (·.since s.tasks.length)

/-- A workload that has come as far as another one gives its answers. -/
theorem Mirrors.answersAlike {provider : σ} {provider' : τ} {old : List Task} {s : Workload σ}
    {s' : Workload τ} (h : Mirrors provider provider' old s s') :
    AnswersAlike s old.length s' 0 where
  tasks := by rw [h.tasks, List.drop_left, List.drop_zero]
  isCached := by rw [h.caches]; exact fun _ => rfl
  generatedFor := by rw [h.caches]; exact fun _ => rfl

open RecordedTrace (RecordAlike)

/-- A resolver over a trace on which everything that is kept is forgotten after a history. -/
def cleared (calls : List RecordedTrace.Call) (isMatch : Matcher) (history : List Move) :
    Workload RecordedTrace :=
  ((new (RecordedTrace.after calls) isMatch).run history).step .clear

/-- From a clear on a resolver does what a new one does over a trace that records the same. -/
theorem mirrors_cleared {calls others : List RecordedTrace.Call}
    (hrecord : RecordAlike calls others) (isMatch : Matcher) {history later : List Move}
    (hquiet : NoneUnderWay (cleared calls isMatch history).tasks later) :
    Mirrors (RecordedTrace.after calls) (RecordedTrace.after others)
      (cleared calls isMatch history).tasks ((cleared calls isMatch history).run later)
      ((new (RecordedTrace.after others) isMatch).run
        ((cleared calls isMatch history).counted later)) := by
  have hclear := mirrors_clear (asked_run (new (RecordedTrace.after calls) isMatch) history)
    (RecordedTrace.after others)
  rw [isMatch_run] at hclear
  exact hclear.run (RecordedTrace.coherent_after calls).steady_replies hrecord.steady_replies hquiet

/-- Clearing a resolver over a recorded trace erases its history. Take any two histories on it after
which no lookup is under way when everything that is kept is forgotten, and the same later moves
after both, counting the lookups from the clear on.

* All later answers are the same after both: how far the lookups have come and to which results, for
  which addresses a source map is kept, and which generated sources are kept.
* They are those of a new resolver over a trace that records the same code and the same steps.
* Every result, every source map, and all generated sources come from what the code at their address
  resolves to with the artifacts of a lookup that has begun since the clear.
* The instruction maps that the trace has made before the clear are still there. -/
theorem clear_erases_history {calls others : List RecordedTrace.Call}
    (hrecord : RecordAlike calls others) (isMatch : Matcher)
    {history history' later later' : List Move}
    (hquiet : NoneUnderWay (cleared calls isMatch history).tasks later)
    (hquiet' : NoneUnderWay (cleared calls isMatch history').tasks later')
    (hsame : (cleared calls isMatch history).counted later =
      (cleared calls isMatch history').counted later') :
    AnswersAlike ((cleared calls isMatch history).run later)
      (cleared calls isMatch history).tasks.length
      ((cleared calls isMatch history').run later')
      (cleared calls isMatch history').tasks.length ∧
    AnswersAlike ((cleared calls isMatch history).run later)
      (cleared calls isMatch history).tasks.length
      ((new (RecordedTrace.after others) isMatch).run
        ((cleared calls isMatch history).counted later)) 0 ∧
    Epoch.Covers
      { code := (RecordedTrace.after calls).codeReply
        index := (RecordedTrace.after calls).indexReply
        isMatch
        later := (cleared calls isMatch history).counted later }
      (((cleared calls isMatch history).run later).tasks.drop
        (cleared calls isMatch history).tasks.length)
      ((cleared calls isMatch history).run later).caches ∧
    ∀ address map,
      ((new (RecordedTrace.after calls) isMatch).run history).resolver.provider.maps.get? address =
        some map →
      ((cleared calls isMatch history).run later).resolver.provider.maps.get? address =
        some map := by
  have hfirst := mirrors_cleared hrecord isMatch hquiet
  have hsecond := mirrors_cleared hrecord isMatch hquiet'
  rw [← hsame] at hsecond
  refine ⟨hfirst.answersAlike.trans hsecond.answersAlike.symm, hfirst.answersAlike, ?_, ?_⟩
  · -- What is true of the new resolver is true of the cleared one, as it has the same.
    rw [hfirst.tasks, List.drop_left, hfirst.caches]
    exact (within_run hrecord.steady_replies).covers
  · intro address map hmap
    have hasked := asked_run (cleared calls isMatch history) later
    exact RecordedTrace.maps_of_asked hasked hmap

/-- A trace with code of a single byte at an account, which runs at its only step. -/
def stepCalls : List RecordedTrace.Call :=
  [.insertCode (.deployed .sample) [0x00], .pushStep 0]

/-- A history in which a source map and an instruction map are made. -/
def stepHistory : List Move :=
  [.start ⟨.deployed .sample, raceArtifacts 1, .atStep 0⟩, .code 0, .index 0]

/-- A history in which one lookup fails and another does not. -/
def failingHistory : List Move :=
  [.start ⟨.creation 7, raceArtifacts 1, .map⟩, .code 0,
    .start ⟨.deployed .sample, raceArtifacts 1, .map⟩, .code 1]

/-- After both histories and a clear the account is resolved with other artifacts, as on a new
resolver, and the instruction map is still there. -/
theorem clear_erases_history_of_two_artifacts :
    let request : Lookup := ⟨.deployed .sample, raceArtifacts 0, .map⟩
    let first := (cleared stepCalls MatchPolicy.exact.accepts stepHistory).run
      [.start request, .code 1]
    let second := (cleared stepCalls MatchPolicy.exact.accepts failingHistory).run
      [.code 0, .start request, .code 2]
    first.tasks.drop 1 = [⟨request, .done (.ok (.map (raceResolved 0)))⟩] ∧
      second.tasks.drop 2 = [⟨request, .done (.ok (.map (raceResolved 0)))⟩] ∧
      first.caches.generatedFor (.deployed .sample) = some (raceSources 0) ∧
      ∃ map, first.resolver.provider.maps.get? (.deployed .sample) = some map := by
  have hrecord : RecordedTrace.RecordAlike stepCalls stepCalls := ⟨fun _ => rfl, rfl⟩
  have hquiet : NoneUnderWay (cleared stepCalls MatchPolicy.exact.accepts stepHistory).tasks
      [.start ⟨.deployed .sample, raceArtifacts 0, .map⟩, .code 1] := by
    intro id task htask
    match id, htask with
    | 0, rfl => exact .inl ⟨_, rfl⟩
  have hquiet' : NoneUnderWay (cleared stepCalls MatchPolicy.exact.accepts failingHistory).tasks
      [.code 0, .start ⟨.deployed .sample, raceArtifacts 0, .map⟩, .code 2] := by
    intro id task htask
    match id, htask with
    | 0, rfl => exact .inl ⟨_, rfl⟩
    | 1, rfl => exact .inl ⟨_, rfl⟩
  obtain ⟨hboth, hnew, -, hmaps⟩ := clear_erases_history hrecord _ hquiet hquiet' rfl
  have hresult := hnew.tasks
  exact ⟨hresult, hboth.tasks.symm.trans hresult, hnew.generatedFor _, _, hmaps _ _ rfl⟩

end Workload

end CodeAtlas
