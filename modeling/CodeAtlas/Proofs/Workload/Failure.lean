import CodeAtlas.Proofs.Workload.Moves

/-!
# Lookups that fail

A lookup fails because its request for a source map does, or behind that: the source map has no
entry for the instruction, or the step of the trace has no instruction. In the first case nothing
that the lookup does changes the caches, in whatever state other lookups have left them. In the
second case the caches are changed by the request alone (`failed_lookup_keeps_caches`). What any
lookup writes belongs to its own address.
-/

namespace CodeAtlas

variable {σ : Type} [CodeProvider σ]

/-- A lookup that has a source map and fails asks for more than the source map. The source map has
no entry for the instruction, or the step of the trace has no instruction. -/
theorem Lookup.outcome_eq_error {request : Lookup}
    {index : CodeAddress → Nat → Except Failure Nat} {resolved : Resolved} {error : LookupError}
    (h : request.outcome index resolved = .error error) :
    request.query ≠ .map ∧
      ((∃ place, error = .indexOutOfRange place resolved.map.size) ∨
        ∃ step failure, request.query = .atStep step ∧ error = .provider failure) := by
  have hentry : ∀ place, (resolved.map.lookup place).map Found.entry = .error error →
      error = .indexOutOfRange place resolved.map.size := by
    intro place hplace
    unfold SourceMap.lookup at hplace
    split at hplace
    · cases hplace
    · cases hplace
      rfl
  unfold outcome at h
  cases hquery : request.query with
  | map =>
    rw [hquery] at h
    cases h
  | atIndex place =>
    rw [hquery] at h
    exact ⟨nofun, .inl ⟨place, hentry place h⟩⟩
  | atStep step =>
    rw [hquery] at h
    refine ⟨nofun, ?_⟩
    cases hindex : index request.address step with
    | error failure =>
      simp only [hindex] at h
      cases h
      exact .inr ⟨step, failure, rfl, rfl⟩
    | ok place =>
      simp only [hindex] at h
      exact .inl ⟨place, hentry place h⟩

namespace Workload

/-- A request for a source map that comes to an end changes what is kept for no other address than
that of its lookup. -/
theorem mapTurn_alikeBut {s : Workload σ} {move : Move} {id : Nat}
    {turn : Turn σ (Except LookupError Resolved)} {task : Task}
    (hmover : s.mover move = some id) (hturn : s.mapTurn move = some turn)
    (htask : (s.step move).tasks[id]? = some task) :
    turn.resolver.caches.AlikeBut task.request.address s.caches := by
  cases move with
  | start request =>
    obtain ⟨kept, -, rfl⟩ := Option.map_eq_some_iff.mp hturn
    exact .refl _ _
  | code place =>
    obtain rfl : place = id := Option.some.inj hmover
    simp only [mapTurn] at hturn
    split at hturn
    · rename_i request hwaits
      cases hturn
      -- The task behind the move is that of the lookup that has waited.
      obtain ⟨stage, hafter, -⟩ := continues_run s [.code place] hwaits
      have hsame : (s.step (.code place)).tasks[place]? = some ⟨request, stage⟩ := hafter
      rw [hsame] at htask
      cases htask
      exact s.resolver.fetch_alikeBut request.address request.artifacts
    · cases hturn
  | index place => cases hturn
  | clear => cases hturn

/-- The move of a lookup changes what is kept for no other address than its own. -/
theorem step_alikeBut {s : Workload σ} {move : Move} {id : Nat} {task : Task}
    (hmover : s.mover move = some id) (htask : (s.step move).tasks[id]? = some task) :
    (s.step move).caches.AlikeBut task.request.address s.caches := by
  rw [step_caches hmover]
  cases hturn : s.mapTurn move with
  | none => exact .refl _ _
  | some turn => exact mapTurn_alikeBut hmover hturn htask

/-- In a run the request for a source map of the lookup at a place comes to a result. -/
def MapResult (s : Workload σ) (moves : List Move) (id : Nat)
    (result : Except LookupError Resolved) : Prop :=
  ∃ before move turn, s.Makes moves id before move ∧
    (s.run before).mapTurn move = some turn ∧ turn.result = result

/-- The move behind the moves `before` leaves the caches alone. -/
def KeepsCaches (s : Workload σ) (before : List Move) (move : Move) : Prop :=
  ((s.run before).step move).caches = (s.run before).caches

/-- A move of a lookup in which no request comes to an end leaves the caches alone. -/
theorem Makes.keepsCaches {s : Workload σ} {moves : List Move} {id : Nat} {before : List Move}
    {move : Move} (h : s.Makes moves id before move) (hturn : (s.run before).mapTurn move = none) :
    s.KeepsCaches before move := by
  unfold KeepsCaches
  rw [step_caches h.2, hturn]
  rfl

/-- A move in which the request of a lookup fails leaves the caches alone. -/
theorem Makes.keepsCaches_of_error {s : Workload σ} {moves : List Move} {id : Nat}
    {before : List Move} {move : Move} {turn : Turn σ (Except LookupError Resolved)}
    {error : LookupError} (h : s.Makes moves id before move)
    (hturn : (s.run before).mapTurn move = some turn) (hresult : turn.result = .error error) :
    s.KeepsCaches before move := by
  unfold KeepsCaches
  rw [step_caches h.2, hturn]
  exact mapTurn_caches_of_error hturn hresult

/-- A lookup whose request for a source map fails has failed with that error, and none of its moves
changes the caches. -/
theorem Story.keepsCaches {s : Workload σ} {moves : List Move} {id : Nat} {request : Lookup}
    {stage : Stage} (h : Story s moves id (some ⟨request, stage⟩)) {error : LookupError}
    (hresult : s.MapResult moves id (.error error)) :
    stage = .done (.error error) ∧
      ∀ before move, s.Makes moves id before move → s.KeepsCaches before move := by
  obtain ⟨before, move, turn, hmakes, hturn, hturn_result⟩ := hresult
  obtain ⟨hstage, hnone⟩ := h.of_mapTurn hmakes hturn
  rw [hturn_result] at hstage
  refine ⟨hstage, fun other later hlater => ?_⟩
  by_cases hsame : other = before
  · subst hsame
    obtain rfl := hmakes.unique hlater
    exact hmakes.keepsCaches_of_error hturn hturn_result
  · exact hlater.keepsCaches (hnone other later hlater hsame)

/-- A lookup that has failed has failed with the error of its request for a source map, or it has
asked for more than the source map and has got this. -/
theorem Story.mapResult_of_error {s : Workload σ} {moves : List Move} {id : Nat} {request : Lookup}
    {error : LookupError} (h : Story s moves id (some ⟨request, .done (.error error)⟩)) :
    s.MapResult moves id (.error error) ∨
      request.query ≠ .map ∧ ∃ resolved, s.MapResult moves id (.ok resolved) ∧
        ((∃ place, error = .indexOutOfRange place resolved.map.size) ∨
          ∃ step failure, request.query = .atStep step ∧ error = .provider failure) := by
  cases h with
  | waiting hwaits hnone =>
    obtain hnever | ⟨other, hsome⟩ := hwaits
    · cases hnever
    · cases hsome
  | ended _ before move turn _ hmakes hturn hnone hstage =>
    cases hresult : turn.result with
    | error own =>
      rw [hresult] at hstage
      cases hstage
      exact .inl ⟨before, move, turn, hmakes, hturn, hresult⟩
    | ok resolved =>
      rw [hresult] at hstage
      obtain hwaits | ⟨index, hdone⟩ := hstage
      · cases hwaits
      · obtain ⟨hquery, herror⟩ := Lookup.outcome_eq_error (Stage.done.inj hdone).symm
        exact .inr ⟨hquery, resolved, ⟨before, move, turn, hmakes, hturn, hresult⟩, herror⟩

/-- No move of a lookup changes what is kept for another address than its own. -/
theorem Makes.alikeBut {s : Workload σ} {moves : List Move} {id : Nat} {request : Lookup}
    {stage : Stage} (h : (s.run moves).tasks[id]? = some ⟨request, stage⟩) {before : List Move}
    {move : Move} (hmakes : s.Makes moves id before move) :
    ((s.run before).step move).caches.AlikeBut request.address (s.run before).caches := by
  obtain ⟨⟨rest, rfl⟩, hmover⟩ := hmakes
  rw [run_append, run_append] at h
  cases htask : ((s.run before).step move).tasks[id]? with
  | none =>
    rw [step_caches hmover, (mapTurn_of_no_task hmover htask).2]
    exact .refl _ _
  | some task =>
    -- What the lookup asks for does not change until the end of the run.
    obtain ⟨reached, hreached, -⟩ := continues_run _ rest htask
    have hend : ((s.run before).step move).run rest = ((s.run before).run [move]).run rest := rfl
    rw [hend, h] at hreached
    cases hreached
    exact step_alikeBut hmover htask

/-- In every run, whatever lookups are under way together:

* a lookup whose request for a source map fails has failed with that error, and none of its moves
  changes the caches;
* a lookup that has failed has failed with the error of its request for a source map, or it has
  asked for more than the source map and has got this, but the source map has no entry for the
  instruction, or the step of the trace has no instruction;
* the move in which its request comes to an end leaves the caches as the request does, and no other
  move of the lookup changes them;
* no move of a lookup, failed or not, changes what is kept for another address. -/
theorem failed_lookup_keeps_caches {s : Workload σ} {moves : List Move} {id : Nat}
    {request : Lookup} {stage : Stage} (hbegins : s.tasks[id]? = none)
    (h : (s.run moves).tasks[id]? = some ⟨request, stage⟩) :
    (∀ error, s.MapResult moves id (.error error) → stage = .done (.error error) ∧
      ∀ before move, s.Makes moves id before move → s.KeepsCaches before move) ∧
    (∀ error, stage = .done (.error error) → s.MapResult moves id (.error error) ∨
      request.query ≠ .map ∧ ∃ resolved, s.MapResult moves id (.ok resolved) ∧
        ((∃ place, error = .indexOutOfRange place resolved.map.size) ∨
          ∃ step failure, request.query = .atStep step ∧ error = .provider failure)) ∧
    (∀ before move turn, s.Makes moves id before move →
      (s.run before).mapTurn move = some turn →
      ((s.run before).step move).caches = turn.resolver.caches ∧
      ∀ other later, s.Makes moves id other later → other ≠ before → s.KeepsCaches other later) ∧
    ∀ before move, s.Makes moves id before move →
      ((s.run before).step move).caches.AlikeBut request.address (s.run before).caches := by
  have hstory : Story s moves id (some ⟨request, stage⟩) := h ▸ story_run hbegins moves
  refine ⟨fun error => hstory.keepsCaches, ?_, fun before move turn hmakes hturn => ⟨?_, ?_⟩,
    fun before move hmakes => hmakes.alikeBut h⟩
  · rintro error rfl
    exact hstory.mapResult_of_error
  · rw [step_caches hmakes.2, hturn]
    rfl
  · intro other later hlater hother
    exact hlater.keepsCaches ((hstory.of_mapTurn hmakes hturn).2 other later hlater hother)

/-- A lookup without artifacts waits for code while another lookup of the same account has the
source map kept. The first lookup fails then, and the move in which it does leaves that source map
where it is. -/
theorem failed_lookup_of_race :
    ((new raceTrace MatchPolicy.exact.accepts).run
        [.start ⟨.deployed .sample, .ofList [], .map⟩,
          .start ⟨.deployed .sample, raceArtifacts 0, .map⟩, .code 1, .code 0]).tasks[0]? =
      some ⟨⟨.deployed .sample, .ofList [], .map⟩,
        .done (.error (.noSourceMap (.deployed .sample)))⟩ ∧
    (new raceTrace MatchPolicy.exact.accepts).KeepsCaches
      [.start ⟨.deployed .sample, .ofList [], .map⟩,
        .start ⟨.deployed .sample, raceArtifacts 0, .map⟩, .code 1] (.code 0) ∧
    ((new raceTrace MatchPolicy.exact.accepts).run
        [.start ⟨.deployed .sample, .ofList [], .map⟩,
          .start ⟨.deployed .sample, raceArtifacts 0, .map⟩, .code 1, .code 0]).caches.cached
      (.deployed .sample) = some (raceResolved 0) := by
  have hdone : ((new raceTrace MatchPolicy.exact.accepts).run
      [.start ⟨.deployed .sample, .ofList [], .map⟩,
        .start ⟨.deployed .sample, raceArtifacts 0, .map⟩, .code 1, .code 0]).tasks[0]? =
      some ⟨⟨.deployed .sample, .ofList [], .map⟩,
        .done (.error (.noSourceMap (.deployed .sample)))⟩ := rfl
  obtain ⟨hkeeps, hfails, -, -⟩ := failed_lookup_keeps_caches rfl hdone
  refine ⟨hdone, ?_, rfl⟩
  obtain hresult | ⟨hquery, -⟩ := hfails _ rfl
  · exact (hkeeps _ hresult).2 _ _ ⟨⟨[], rfl⟩, rfl⟩
  · exact absurd rfl hquery

end Workload

end CodeAtlas
