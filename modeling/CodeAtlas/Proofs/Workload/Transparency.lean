import CodeAtlas.Proofs.Workload

/-!
# Caches that do not show

Over a provider that answers as fixed functions of its arguments, with one matcher and one set of
artifacts, nobody can tell from the results that there are caches or that lookups overtake each
other (`transparent`): every lookup comes to what it would come to alone on a new resolver, and what
is kept is what a new resolver would find.

The invariant `Consistent` says of the caches and of every lookup under way that they agree with
what the code resolves to (`Setting.resolution`). It allows any state of the caches that holds
nothing wrong, so a clear at any moment does no harm: a lookup may begin without an entry and find
one, find none, or find a newer one when its code comes.
-/

namespace CodeAtlas

/-- What stays the same while lookups are under way. -/
structure Setting where
  /-- The answers to questions for code. -/
  code : CodeAddress → Except Failure (List UInt8)
  /-- The answers to questions for instructions. -/
  index : CodeAddress → Nat → Except Failure Nat
  /-- Which running code is a form of which candidate. -/
  isMatch : Matcher
  /-- The artifacts to look among. -/
  artifacts : ArtifactSet

namespace Setting

/-- What the code at an address resolves to. -/
def resolution (setting : Setting) (address : CodeAddress) : Except LookupError Resolved :=
  Caches.resolution setting.isMatch setting.artifacts address (setting.code address)

/-- What a lookup comes to. -/
def result (setting : Setting) (request : Lookup) : LookupResult :=
  request.outcomeOf setting.index (setting.resolution request.address)

/-- A lookup has come as far as a stage without a mistake. -/
def Fits (setting : Setting) (request : Lookup) : Stage → Prop
  | .awaitingCode => True
  | .awaitingIndex resolved => setting.resolution request.address = .ok resolved
  | .done result => result = setting.result request

/-- A lookup whose code resolves to a source map comes to what it finds there. -/
theorem result_of_ok {setting : Setting} {request : Lookup} {resolved : Resolved}
    (h : setting.resolution request.address = .ok resolved) :
    setting.result request = request.outcome setting.index resolved := by
  unfold result Lookup.outcomeOf
  rw [h]
  rfl

/-- A lookup whose code resolves to nothing comes to that error. -/
theorem result_of_error {setting : Setting} {request : Lookup} {error : LookupError}
    (h : setting.resolution request.address = .error error) :
    setting.result request = .error error := by
  unfold result Lookup.outcomeOf
  rw [h]
  rfl

/-- A lookup makes no mistake with the source map that its code resolves to. -/
theorem fits_proceed {setting : Setting} {request : Lookup} {resolved : Resolved}
    (h : setting.resolution request.address = .ok resolved) :
    setting.Fits request (request.proceed resolved) := by
  have hresult := result_of_ok h
  unfold Lookup.proceed
  unfold Lookup.outcome at hresult
  cases hquery : request.query with
  | map =>
    rw [hquery] at hresult
    exact hresult.symm
  | atIndex place =>
    rw [hquery] at hresult
    exact hresult.symm
  | atStep step => exact h

/-- Caches hold nothing but what the code resolves to. -/
structure Agrees (setting : Setting) (caches : Caches) : Prop where
  /-- A source map that is kept is what the code at its address resolves to. -/
  cached : ∀ address kept, caches.cached address = some kept →
    setting.resolution address = .ok kept
  /-- Generated sources that are kept belong to what the code at their address resolves to. -/
  generatedFor : ∀ address generated, caches.generatedFor address = some generated →
    ∃ resolved, setting.resolution address = .ok resolved ∧ generated = resolved.generated

/-- Empty caches hold nothing wrong. -/
theorem agrees_empty (setting : Setting) : setting.Agrees .empty where
  cached := fun address kept hkept => by
    rw [Caches.cached_empty] at hkept
    cases hkept
  generatedFor := fun address generated hgenerated => by cases hgenerated

/-- A lookup goes on with what its code resolves to, whether or not another was faster. -/
theorem Agrees.getD_cached {setting : Setting} {caches : Caches} (h : setting.Agrees caches)
    {address : CodeAddress} {resolved : Resolved}
    (hresolution : setting.resolution address = .ok resolved) :
    (caches.cached address).getD resolved = resolved := by
  cases hcached : caches.cached address with
  | none => rfl
  | some kept =>
    have hkept := h.cached address kept hcached
    rw [hresolution] at hkept
    cases hkept
    rfl

/-- Recording what the code at an address resolves to puts nothing wrong into the caches. -/
theorem Agrees.record {setting : Setting} {caches : Caches} (h : setting.Agrees caches)
    {address : CodeAddress} {resolved : Resolved}
    (hresolution : setting.resolution address = .ok resolved) :
    setting.Agrees (caches.record address resolved).1 where
  cached := by
    intro other kept hkept
    rw [Caches.cached_record, h.getD_cached hresolution] at hkept
    split at hkept
    · rename_i hsame
      cases hkept
      rw [hsame.1, hresolution]
    · exact h.cached other kept hkept
  generatedFor := by
    intro other generated hgenerated
    rw [Caches.generatedFor_record] at hgenerated
    split at hgenerated
    · rename_i hsame
      cases hgenerated
      exact ⟨resolved, by rw [hsame, hresolution], rfl⟩
    · exact h.generatedFor other generated hgenerated

end Setting

namespace Workload

variable {σ : Type} [CodeProvider σ] {provider : σ} {setting : Setting}

/-- Nothing in a workload contradicts the setting. -/
structure Consistent (provider : σ) (setting : Setting) (s : Workload σ) : Prop where
  /-- The provider was asked questions and nothing else. -/
  asked : Asked provider s.resolver.provider
  /-- The matcher is the one of the setting. -/
  isMatch : s.resolver.isMatch = setting.isMatch
  /-- The caches hold nothing wrong. -/
  agrees : setting.Agrees s.caches
  /-- Every lookup has the artifacts of the setting and has come as far as it has without a
  mistake. -/
  fits : ∀ (id : Nat) (request : Lookup) (stage : Stage), s.tasks[id]? = some ⟨request, stage⟩ →
    request.artifacts = setting.artifacts ∧ setting.Fits request stage

/-- A new resolver is consistent. -/
theorem consistent_new (provider : σ) (setting : Setting) :
    (new provider setting.isMatch).Consistent provider setting where
  asked := .refl
  isMatch := rfl
  agrees := setting.agrees_empty
  fits := fun id request stage htask => by cases htask

/-- The code that comes for a lookup resolves as the setting says. -/
theorem Consistent.resolution_eq {s : Workload σ} (h : s.Consistent provider setting)
    (hsteady : Steady provider setting.code setting.index) {request : Lookup}
    (hartifacts : request.artifacts = setting.artifacts) :
    s.resolver.resolution request.address request.artifacts = setting.resolution request.address := by
  rw [hsteady.resolution_eq h.asked, h.isMatch, hartifacts]
  rfl

/-- Every move keeps the caches free of anything wrong. -/
theorem Step.agrees {s s' : Workload σ} {move : Move} (hstep : Step s move s')
    (h : s.Consistent provider setting) (hsteady : Steady provider setting.code setting.index) :
    setting.Agrees s'.caches := by
  cases hstep with
  | hit request kept hkept => exact h.agrees
  | miss request hnone => exact h.agrees
  | fail id request error htask hresolution => exact h.agrees
  | resolve id request resolved htask hresolution =>
    obtain ⟨hartifacts, -⟩ := h.fits id request _ htask
    rw [h.resolution_eq hsteady hartifacts] at hresolution
    exact h.agrees.record hresolution
  | answer id request resolved htask =>
    show setting.Agrees (s.resolver.answer request resolved).resolver.caches
    rw [Resolver.answer_caches]
    exact h.agrees
  | idle id move hmove => exact h.agrees
  | clear => exact setting.agrees_empty

/-- Every move lets the lookups of the setting go on without a mistake. -/
theorem Step.fits {s s' : Workload σ} {move : Move} (hstep : Step s move s')
    (h : s.Consistent provider setting) (hsteady : Steady provider setting.code setting.index)
    (hstart : ∀ request, move = .start request → request.artifacts = setting.artifacts)
    (id : Nat) (request : Lookup) (stage : Stage) (htask : s'.tasks[id]? = some ⟨request, stage⟩) :
    request.artifacts = setting.artifacts ∧ setting.Fits request stage := by
  cases hstep.origin htask with
  | same hbefore => exact h.fits id request stage hbefore
  | hit kept hmove hkept hstage =>
    have hresolution := (hstep.agrees h hsteady).cached _ _ hkept
    rw [hstage]
    exact ⟨hstart request hmove, Setting.fits_proceed hresolution⟩
  | miss hmove hstage =>
    rw [hstage]
    exact ⟨hstart request hmove, trivial⟩
  | fail error hbefore hresolution hstage =>
    obtain ⟨hartifacts, -⟩ := h.fits id request _ hbefore
    rw [h.resolution_eq hsteady hartifacts] at hresolution
    rw [hstage]
    exact ⟨hartifacts, (Setting.result_of_error hresolution).symm⟩
  | resolve resolved hbefore hresolution hresolver hstage =>
    obtain ⟨hartifacts, -⟩ := h.fits id request _ hbefore
    rw [h.resolution_eq hsteady hartifacts] at hresolution
    -- The cache may have been filled since the lookup began, but with nothing else.
    rw [hstage, h.agrees.getD_cached hresolution]
    exact ⟨hartifacts, Setting.fits_proceed hresolution⟩
  | answer resolved hbefore hstage =>
    obtain ⟨hartifacts, hresolution⟩ := h.fits id request _ hbefore
    rw [hstage, hsteady.answer_result h.asked]
    exact ⟨hartifacts, (Setting.result_of_ok hresolution).symm⟩

/-- Every move keeps a workload consistent, if a lookup that begins has the artifacts of the
setting. -/
theorem Step.consistent {s s' : Workload σ} {move : Move} (hstep : Step s move s')
    (hsteady : Steady provider setting.code setting.index)
    (hstart : ∀ request, move = .start request → request.artifacts = setting.artifacts)
    (h : s.Consistent provider setting) : s'.Consistent provider setting := by
  have hagrees := hstep.agrees h hsteady
  have hfits := hstep.fits h hsteady hstart
  cases hstep with
  | hit request kept hkept => exact ⟨h.asked, h.isMatch, hagrees, hfits⟩
  | miss request hnone => exact ⟨h.asked, h.isMatch, hagrees, hfits⟩
  | fail id request error htask hresolution => exact ⟨h.asked.code _, h.isMatch, hagrees, hfits⟩
  | resolve id request resolved htask hresolution =>
    exact ⟨h.asked.code _, h.isMatch, hagrees, hfits⟩
  | answer id request resolved htask =>
    have hmatch := (Resolver.answer_isMatch s.resolver request resolved).trans h.isMatch
    exact ⟨h.asked.answer request resolved, hmatch, hagrees, hfits⟩
  | idle id move hmove => exact h
  | clear => exact ⟨h.asked, h.isMatch, hagrees, hfits⟩

/-- A run on a new resolver ends in a consistent workload, if all lookups have the artifacts of the
setting. -/
theorem consistent_run (hsteady : Steady provider setting.code setting.index) {moves : List Move}
    (hartifacts : ∀ request, Move.start request ∈ moves → request.artifacts = setting.artifacts) :
    ((new provider setting.isMatch).run moves).Consistent provider setting := by
  refine run_induction (fun s s' move hmem hstep h => ?_) (consistent_new provider setting)
  exact hstep.consistent hsteady (fun request hmove => hartifacts request (hmove ▸ hmem)) h

/-- What a lookup comes to that is alone on a new resolver. -/
def alone (provider : σ) (isMatch : Matcher) (request : Lookup) : LookupResult :=
  (Resolver.lookup { provider, isMatch } request).result

/-- A lookup that is alone on a new resolver comes to what the setting says. -/
theorem alone_eq (hsteady : Steady provider setting.code setting.index) {request : Lookup}
    (hartifacts : request.artifacts = setting.artifacts) :
    alone provider setting.isMatch request = setting.result request := by
  unfold alone
  rw [hsteady.lookup_result .refl request (Caches.cached_empty _), hartifacts]
  rfl

/-- A new resolver finds what the code at an address resolves to. -/
theorem alone_map (hsteady : Steady provider setting.code setting.index) {address : CodeAddress}
    {resolved : Resolved} (h : setting.resolution address = .ok resolved) :
    alone provider setting.isMatch ⟨address, setting.artifacts, .map⟩ = .ok (.map resolved) := by
  rw [alone_eq hsteady rfl, Setting.result_of_ok h]
  rfl

/-- A lookup that is done has come to what it comes to alone on a new resolver. -/
theorem result_eq_alone (hsteady : Steady provider setting.code setting.index) {moves : List Move}
    (hartifacts : ∀ request, Move.start request ∈ moves → request.artifacts = setting.artifacts)
    {id : Nat} {request : Lookup} {result : LookupResult}
    (htask : ((new provider setting.isMatch).run moves).tasks[id]? = some ⟨request, .done result⟩) :
    result = alone provider setting.isMatch request := by
  obtain ⟨hrequest, hresult⟩ := (consistent_run hsteady hartifacts).fits id request _ htask
  rw [alone_eq hsteady hrequest]
  exact hresult

/-- Over a provider that answers as fixed functions of its arguments, with one matcher and one set
of artifacts, the caches and the order of events do not show. Whatever lookups of whatever addresses
are under way together, in whatever order their answers come, and whenever everything that is kept
is forgotten:

* a lookup that is done has come to what it comes to alone on a new resolver;
* a lookup that is not done comes to this when its answers come;
* a source map that is kept is the one that a new resolver finds for its address;
* so are the generated sources that are kept. -/
theorem transparent (hsteady : Steady provider setting.code setting.index) {moves : List Move}
    (hartifacts : ∀ request, Move.start request ∈ moves → request.artifacts = setting.artifacts) :
    (∀ (id : Nat) (request : Lookup) (result : LookupResult),
      ((new provider setting.isMatch).run moves).tasks[id]? = some ⟨request, .done result⟩ →
      result = alone provider setting.isMatch request) ∧
    (∀ (id : Nat) (request : Lookup) (stage : Stage),
      ((new provider setting.isMatch).run moves).tasks[id]? = some ⟨request, stage⟩ →
      (((new provider setting.isMatch).run moves).run [.code id, .index id]).tasks[id]? =
        some ⟨request, .done (alone provider setting.isMatch request)⟩) ∧
    (∀ address kept, ((new provider setting.isMatch).run moves).caches.cached address = some kept →
      alone provider setting.isMatch ⟨address, setting.artifacts, .map⟩ = .ok (.map kept)) ∧
    ∀ address generated,
      ((new provider setting.isMatch).run moves).caches.generatedFor address = some generated →
      ∃ resolved,
        alone provider setting.isMatch ⟨address, setting.artifacts, .map⟩ = .ok (.map resolved) ∧
        generated = resolved.generated := by
  have hagrees := (consistent_run hsteady hartifacts).agrees
  refine ⟨fun id request result htask => result_eq_alone hsteady hartifacts htask,
    fun id request stage htask => ?_, fun address kept hkept => ?_,
    fun address generated hgenerated => ?_⟩
  · -- The answers are moves like any other, so this is the first part for a longer run.
    obtain ⟨result, hend⟩ := done_of_answers _ htask
    have hlonger : ∀ other, Move.start other ∈ moves ++ [.code id, .index id] →
        other.artifacts = setting.artifacts := fun other hother =>
      hartifacts other (by simpa using hother)
    rw [← run_append] at hend ⊢
    rw [hend, result_eq_alone hsteady hlonger hend]
  · exact alone_map hsteady (hagrees.cached address kept hkept)
  · obtain ⟨resolved, hresolution, hsame⟩ := hagrees.generatedFor address generated hgenerated
    exact ⟨resolved, alone_map hsteady hresolution, hsame⟩

/-- The account of the lookups that race, with one set of artifacts. -/
def raceSetting : Setting :=
  ⟨raceTrace.codeReply, raceTrace.indexReply, MatchPolicy.exact.accepts, raceArtifacts 0⟩

/-- A lookup of an entry is overtaken by a lookup of the source map and by a clear, and finds the
entry that it finds alone. -/
theorem transparent_of_race :
    alone raceTrace MatchPolicy.exact.accepts ⟨.deployed .sample, raceArtifacts 0, .atIndex 0⟩ =
      .ok (.entry ⟨0, 1, 0, .regular, 0⟩) := by
  have hcoherent : raceTrace.Coherent := RecordedTrace.coherent_empty.insertCode _ _
  have hsteady : Steady raceTrace raceSetting.code raceSetting.index := hcoherent.steady_replies
  have hartifacts : ∀ request, Move.start request ∈
      [.start ⟨.deployed .sample, raceArtifacts 0, .atIndex 0⟩,
        .start ⟨.deployed .sample, raceArtifacts 0, .map⟩, .code 1, .clear, .code 0] →
      request.artifacts = raceSetting.artifacts := by
    intro request hmem
    simp only [List.mem_cons, Move.start.injEq, reduceCtorEq, List.not_mem_nil, or_false] at hmem
    rcases hmem with rfl | rfl <;> rfl
  exact ((transparent hsteady hartifacts).1 0 _ _ rfl).symm

end Workload

end CodeAtlas
