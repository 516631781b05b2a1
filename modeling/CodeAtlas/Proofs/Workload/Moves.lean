import CodeAtlas.Proofs.Workload

/-!
# The moves of a lookup

Every move but a clear is made by one of the lookups (`Workload.mover`), and a lookup begins with a
move of its own. What a lookup does to the caches it does where its request for a source map comes
to an end (`Workload.mapTurn`): when it begins, if the source map is kept, and else when its code
comes. `Workload.Advance` lists what a lookup comes to by a move of its own. Other moves leave it
where it is (`Workload.step_of_not_mover`).

So the request of a lookup for its source map comes to an end once (`Workload.story_run`), and the
lookup changes the caches in no other of its moves (`Workload.step_caches`).
-/

namespace CodeAtlas

/-- How a lookup goes on when its request for a source map has come to an end. -/
def Lookup.follow (request : Lookup) : Except LookupError Resolved → Stage
  | .error error => .done (.error error)
  | .ok resolved => request.proceed resolved

/-- A lookup has come to a stage from what its request for a source map has come to: the request has
failed, or the lookup has the source map, and waits for an index or is done. -/
def Lookup.Follows (request : Lookup) : Except LookupError Resolved → Stage → Prop
  | .error error, stage => stage = .done (.error error)
  | .ok resolved, stage =>
    stage = .awaitingIndex resolved ∨ ∃ index, stage = .done (request.outcome index resolved)

/-- A lookup has come to where it goes on from its request. -/
theorem Lookup.follows_follow (request : Lookup) (result : Except LookupError Resolved) :
    request.Follows result (request.follow result) := by
  cases result with
  | error error => rfl
  | ok resolved =>
    show request.proceed resolved = _ ∨ ∃ index, request.proceed resolved = _
    unfold proceed outcome
    cases request.query with
    | map => exact .inr ⟨fun _ _ => .ok 0, rfl⟩
    | atIndex place => exact .inr ⟨fun _ _ => .ok 0, rfl⟩
    | atStep step => exact .inl rfl

/-- What a resolver answers is the outcome of the lookup with what its provider replies. -/
theorem Resolver.answer_eq_outcome {σ : Type} [CodeProvider σ] (resolver : Resolver σ)
    (request : Lookup) (resolved : Resolved) :
    (resolver.answer request resolved).result = request.outcome
      (fun address step => (CodeProvider.instructionIndex resolver.provider address step).result)
      resolved := by
  unfold answer Lookup.outcome
  cases request.query <;> rfl

/-- A lookup whose request for a source map has come to an end does not wait for code. -/
theorem Lookup.Follows.ne_awaitingCode {request : Lookup} {result : Except LookupError Resolved}
    {stage : Stage} (h : request.Follows result stage) : stage ≠ .awaitingCode := by
  cases result with
  | error error =>
    obtain rfl : stage = .done (.error error) := h
    exact fun hstage => by cases hstage
  | ok resolved =>
    obtain rfl | ⟨index, rfl⟩ := h
    · exact fun hstage => by cases hstage
    · exact fun hstage => by cases hstage

/-- A lookup that waits for an index has a source map. -/
theorem Lookup.Follows.result_eq {request : Lookup} {result : Except LookupError Resolved}
    {resolved : Resolved} (h : request.Follows result (.awaitingIndex resolved)) :
    result = .ok resolved := by
  cases result with
  | error error => cases h
  | ok own =>
    obtain hsame | ⟨index, hdone⟩ := h
    · cases hsame
      rfl
    · cases hdone

namespace Workload

variable {σ : Type}

/-- The place of the lookup that makes a move. -/
def mover (s : Workload σ) : Move → Option Nat
  | .start _ => some s.tasks.length
  | .code id => some id
  | .index id => some id
  | .clear => none

variable [CodeProvider σ]

/-! ## Requests for source maps -/

/-- What the request for a source map comes to if it comes to an end in a move: the source map is
kept when the lookup begins, or the code comes that the lookup waits for. -/
def mapTurn (s : Workload σ) : Move → Option (Turn σ (Except LookupError Resolved))
  | .start request =>
    (s.caches.start request.address).map fun kept => ⟨.ok kept, s.resolver, []⟩
  | .code id =>
    match s.tasks[id]? with
    | some ⟨request, .awaitingCode⟩ => some (s.resolver.fetch request.address request.artifacts)
    | _ => none
  | .index _ => none
  | .clear => none

/-- The request of a lookup that waits for code comes to an end when the code comes. -/
theorem mapTurn_code {s : Workload σ} {id : Nat} {request : Lookup}
    (h : s.tasks[id]? = some ⟨request, .awaitingCode⟩) :
    s.mapTurn (.code id) = some (s.resolver.fetch request.address request.artifacts) := by
  simp only [mapTurn, h]

/-- A request for a source map that fails leaves the caches alone. -/
theorem mapTurn_caches_of_error {s : Workload σ} {move : Move}
    {turn : Turn σ (Except LookupError Resolved)} {error : LookupError}
    (h : s.mapTurn move = some turn) (hresult : turn.result = .error error) :
    turn.resolver.caches = s.caches := by
  cases move with
  | start request =>
    obtain ⟨kept, -, rfl⟩ := Option.map_eq_some_iff.mp h
    cases hresult
  | code id =>
    simp only [mapTurn] at h
    split at h
    · rename_i request htask
      cases h
      cases hresolution : s.resolver.resolution request.address request.artifacts with
      | error other =>
        rw [(Resolver.fetch_of_error hresolution).2]
        rfl
      | ok resolved =>
        rw [(Resolver.fetch_of_ok hresolution).1] at hresult
        cases hresult
    · cases h
  | index id => cases h
  | clear => cases h

/-- A move of a lookup leaves the caches as the request for a source map does that comes to an end
in it, and alone if none does. -/
theorem step_caches {s : Workload σ} {move : Move} {id : Nat} (hmover : s.mover move = some id) :
    (s.step move).caches = ((s.mapTurn move).map (·.resolver.caches)).getD s.caches := by
  cases move with
  | start request =>
    simp only [step, begin, mapTurn]
    cases s.caches.start request.address <;> rfl
  | code other =>
    cases htask : s.tasks[other]? with
    | none => simp [step, mapTurn, htask]
    | some task =>
      obtain ⟨request, stage⟩ := task
      cases stage <;> simp [step, mapTurn, htask, receiveCode]
  | index other =>
    simp only [step, mapTurn]
    split
    · exact Resolver.answer_caches ..
    · rfl
  | clear => cases hmover

/-! ## One move -/

/-- What the lookup at a place comes to by a move of its own. -/
inductive Advance (s : Workload σ) (move : Move) (id : Nat) (request : Lookup) (stage : Stage) :
    Prop
  /-- Its request for a source map comes to an end. -/
  | ends (turn : Turn σ (Except LookupError Resolved))
    (hbefore : s.tasks[id]? = none ∨ s.tasks[id]? = some ⟨request, .awaitingCode⟩)
    (hturn : s.mapTurn move = some turn) (hstage : stage = request.follow turn.result)
  /-- It begins, and waits for code. -/
  | waits (hbefore : s.tasks[id]? = none) (hturn : s.mapTurn move = none)
    (hstage : stage = .awaitingCode)
  /-- The index comes that it waits for. -/
  | answers (resolved : Resolved)
    (hbefore : s.tasks[id]? = some ⟨request, .awaitingIndex resolved⟩)
    (hturn : s.mapTurn move = none)
    (hstage : stage = .done (s.resolver.answer request resolved).result)
  /-- An answer comes for which it does not wait. -/
  | idles (hbefore : s.tasks[id]? = some ⟨request, stage⟩) (hturn : s.mapTurn move = none)

/-- What a lookup comes to by the move with which it begins. -/
theorem advance_start {s : Workload σ} {begun request : Lookup} {stage : Stage}
    (h : (s.step (.start begun)).tasks[s.tasks.length]? = some ⟨request, stage⟩) :
    Advance s (.start begun) s.tasks.length request stage := by
  have hbefore : s.tasks[s.tasks.length]? = none := List.getElem?_eq_none (Nat.le_refl _)
  simp only [step, begin] at h
  cases hstart : s.caches.start begun.address with
  | some kept =>
    simp only [hstart, List.getElem?_concat_length] at h
    cases h
    exact .ends ⟨.ok kept, s.resolver, []⟩ (.inl hbefore) (by simp only [mapTurn, hstart]; rfl) rfl
  | none =>
    simp only [hstart, List.getElem?_concat_length] at h
    cases h
    exact .waits hbefore (by simp only [mapTurn, hstart]; rfl) rfl

/-- What a lookup comes to when code comes for it. -/
theorem advance_code {s : Workload σ} {id : Nat} {request : Lookup} {stage : Stage}
    (h : (s.step (.code id)).tasks[id]? = some ⟨request, stage⟩) :
    Advance s (.code id) id request stage := by
  cases htask : s.tasks[id]? with
  | none =>
    simp only [step, htask] at h
    cases h
  | some task =>
    obtain ⟨begun, reached⟩ := task
    obtain ⟨hlt, -⟩ := List.getElem?_eq_some_iff.mp htask
    cases reached with
    | awaitingCode =>
      simp only [step, htask, receiveCode, List.getElem?_set_self hlt] at h
      cases h
      refine .ends _ (.inr htask) (mapTurn_code htask) ?_
      cases (s.resolver.fetch request.address request.artifacts).result <;> rfl
    | awaitingIndex resolved =>
      simp only [step, htask] at h
      cases h
      exact .idles htask (by simp only [mapTurn, htask])
    | done result =>
      simp only [step, htask] at h
      cases h
      exact .idles htask (by simp only [mapTurn, htask])

/-- What a lookup comes to when an index comes for it. -/
theorem advance_index {s : Workload σ} {id : Nat} {request : Lookup} {stage : Stage}
    (h : (s.step (.index id)).tasks[id]? = some ⟨request, stage⟩) :
    Advance s (.index id) id request stage := by
  cases htask : s.tasks[id]? with
  | none =>
    simp only [step, htask] at h
    cases h
  | some task =>
    obtain ⟨begun, reached⟩ := task
    obtain ⟨hlt, -⟩ := List.getElem?_eq_some_iff.mp htask
    cases reached with
    | awaitingIndex resolved =>
      simp only [step, htask, receiveIndex, List.getElem?_set_self hlt] at h
      cases h
      exact .answers resolved htask rfl rfl
    | awaitingCode =>
      simp only [step, htask] at h
      cases h
      exact .idles htask rfl
    | done result =>
      simp only [step, htask] at h
      cases h
      exact .idles htask rfl

/-- A lookup that makes a move does one of these. -/
theorem advance_of_mover {s : Workload σ} {move : Move} {id : Nat} {request : Lookup}
    {stage : Stage} (hmover : s.mover move = some id) (h : (s.step move).tasks[id]? = some ⟨request, stage⟩) :
    Advance s move id request stage := by
  cases move with
  | start begun =>
    obtain rfl : s.tasks.length = id := Option.some.inj hmover
    exact advance_start h
  | code other =>
    obtain rfl : other = id := Option.some.inj hmover
    exact advance_code h
  | index other =>
    obtain rfl : other = id := Option.some.inj hmover
    exact advance_index h
  | clear => cases hmover

/-- A task that is added behind others is at no other place. -/
theorem getElem?_append_of_ne {tasks : List Task} {next : Task} {id : Nat}
    (h : tasks.length ≠ id) : (tasks ++ [next])[id]? = tasks[id]? := by
  rw [List.getElem?_append]
  split
  · rfl
  · rw [List.getElem?_eq_none (by rw [List.length_singleton]; omega),
      List.getElem?_eq_none (by omega)]

/-- A move that a lookup does not make leaves it where it is. -/
theorem step_of_not_mover {s : Workload σ} {move : Move} {id : Nat} (h : s.mover move ≠ some id) :
    (s.step move).tasks[id]? = s.tasks[id]? := by
  have hstep := s.step_spec move
  generalize s.step move = s' at hstep ⊢
  cases hstep with
  | hit request kept hkept => exact getElem?_append_of_ne fun hsame => h (congrArg some hsame)
  | miss request hnone => exact getElem?_append_of_ne fun hsame => h (congrArg some hsame)
  | fail other request error htask hresolution =>
    exact List.getElem?_set_ne fun hsame => h (congrArg some hsame)
  | resolve other request resolved htask hresolution =>
    exact List.getElem?_set_ne fun hsame => h (congrArg some hsame)
  | answer other request resolved htask =>
    exact List.getElem?_set_ne fun hsame => h (congrArg some hsame)
  | idle other move hmove => rfl
  | clear => rfl

/-- A lookup that waits for code waits for it until it comes. -/
theorem step_of_awaitingCode {s : Workload σ} {id : Nat} {request : Lookup} {move : Move}
    (h : s.tasks[id]? = some ⟨request, .awaitingCode⟩) (hmove : move ≠ .code id) :
    (s.step move).tasks[id]? = some ⟨request, .awaitingCode⟩ := by
  by_cases hmover : s.mover move = some id
  · cases move with
    | start begun =>
      obtain rfl : s.tasks.length = id := Option.some.inj hmover
      obtain ⟨hlt, -⟩ := List.getElem?_eq_some_iff.mp h
      exact absurd hlt (Nat.lt_irrefl _)
    | code other =>
      obtain rfl : other = id := Option.some.inj hmover
      exact absurd rfl hmove
    | index other =>
      obtain rfl : other = id := Option.some.inj hmover
      simp only [step, h]
    | clear => cases hmover
  · rw [step_of_not_mover hmover, h]

/-! ## All moves of a lookup -/

/-- Behind the moves `before` of a run the lookup at a place makes a move. -/
def Makes (s : Workload σ) (moves : List Move) (id : Nat) (before : List Move) (move : Move) :
    Prop :=
  before ++ [move] <+: moves ∧ (s.run before).mover move = some id

/-- A lookup makes the moves of a longer run that it has made before, and the last if it is its
own. -/
theorem makes_concat {s : Workload σ} {moves : List Move} {last : Move} {id : Nat}
    {before : List Move} {move : Move} :
    s.Makes (moves ++ [last]) id before move ↔ s.Makes moves id before move ∨
      (before = moves ∧ move = last ∧ (s.run moves).mover last = some id) := by
  unfold Makes
  rw [List.prefix_concat_iff]
  constructor
  · rintro ⟨hlast | hbefore, hmover⟩
    · obtain ⟨rfl, hmove⟩ := List.append_inj' hlast rfl
      cases hmove
      exact .inr ⟨rfl, rfl, hmover⟩
    · exact .inl ⟨hbefore, hmover⟩
  · rintro (⟨hbefore, hmover⟩ | ⟨rfl, rfl, hmover⟩)
    · exact ⟨.inr hbefore, hmover⟩
    · exact ⟨.inl rfl, hmover⟩

/-- Behind the same moves there is one move. -/
theorem Makes.unique {s : Workload σ} {moves : List Move} {id : Nat} {before : List Move}
    {move other : Move} (h : s.Makes moves id before move)
    (hother : s.Makes moves id before other) : move = other := by
  obtain ⟨⟨rest, hrest⟩, -⟩ := h
  obtain ⟨⟨rest', hrest'⟩, -⟩ := hother
  have hsame := hrest.trans hrest'.symm
  simp only [List.append_assoc, List.append_cancel_left_eq, List.cons_append,
    List.cons.injEq] at hsame
  exact hsame.1

/-- What the moves of a lookup in a run have come to for its request for a source map: it has not
yet come to an end, or it has come to an end in one of them, and the lookup has gone on from there.
-/
inductive Story (s : Workload σ) (moves : List Move) (id : Nat) : Option Task → Prop
  /-- The lookup has not begun or waits for code. -/
  | waiting {task? : Option Task}
    (hwaits : task? = none ∨ ∃ request, task? = some ⟨request, .awaitingCode⟩)
    (hnone : ∀ before move, s.Makes moves id before move → (s.run before).mapTurn move = none) :
    Story s moves id task?
  /-- The request has come to an end in the move behind the moves `before`. -/
  | ended (request : Lookup) (before : List Move) (move : Move)
    (turn : Turn σ (Except LookupError Resolved)) (stage : Stage)
    (hmakes : s.Makes moves id before move) (hturn : (s.run before).mapTurn move = some turn)
    (hnone : ∀ other later, s.Makes moves id other later → other ≠ before →
      (s.run other).mapTurn later = none)
    (hstage : request.Follows turn.result stage) : Story s moves id (some ⟨request, stage⟩)

/-- A lookup that has not begun or waits for code has ended no request. -/
theorem Story.mapTurn_eq_none {s : Workload σ} {moves : List Move} {id : Nat} {task? : Option Task}
    (h : Story s moves id task?)
    (hwaits : task? = none ∨ ∃ request, task? = some ⟨request, .awaitingCode⟩)
    {before : List Move} {move : Move} (hmakes : s.Makes moves id before move) :
    (s.run before).mapTurn move = none := by
  cases h with
  | waiting _ hnone => exact hnone before move hmakes
  | ended request _ _ turn stage _ _ _ hstage =>
    obtain hnever | ⟨other, hsome⟩ := hwaits
    · cases hnever
    · cases hsome
      exact absurd rfl hstage.ne_awaitingCode

/-- The request of a lookup comes to an end in one move of the run, and the lookup has come to where
it is from there. -/
theorem Story.of_mapTurn {s : Workload σ} {moves : List Move} {id : Nat} {request : Lookup}
    {stage : Stage} (h : Story s moves id (some ⟨request, stage⟩)) {before : List Move}
    {move : Move} {turn : Turn σ (Except LookupError Resolved)} (hmakes : s.Makes moves id before move)
    (hturn : (s.run before).mapTurn move = some turn) :
    request.Follows turn.result stage ∧
      ∀ other later, s.Makes moves id other later → other ≠ before →
        (s.run other).mapTurn later = none := by
  cases h with
  | waiting hwaits hnone =>
    rw [hnone before move hmakes] at hturn
    cases hturn
  | ended _ own _ _ _ hown hturn' hnone hstage =>
    by_cases hsame : before = own
    · subst hsame
      obtain rfl := hmakes.unique hown
      rw [hturn] at hturn'
      cases hturn'
      exact ⟨hstage, hnone⟩
    · rw [hnone before move hmakes hsame] at hturn
      cases hturn

/-- A lookup that has not begun can begin and wait for code. -/
theorem Story.begun {s : Workload σ} {moves : List Move} {id : Nat} (h : Story s moves id none)
    (request : Lookup) : Story s moves id (some ⟨request, .awaitingCode⟩) :=
  .waiting (.inr ⟨request, rfl⟩) fun _ _ hmakes => h.mapTurn_eq_none (.inl rfl) hmakes

/-- A lookup that waits for an index can be answered. -/
theorem Story.answered {s : Workload σ} {moves : List Move} {id : Nat} {request : Lookup}
    {resolved : Resolved} (h : Story s moves id (some ⟨request, .awaitingIndex resolved⟩))
    (index : CodeAddress → Nat → Except Failure Nat) :
    Story s moves id (some ⟨request, .done (request.outcome index resolved)⟩) := by
  cases h with
  | waiting hwaits hnone =>
    obtain hnever | ⟨other, hsome⟩ := hwaits
    · cases hnever
    · cases hsome
  | ended _ before move turn _ hmakes hturn hnone hstage =>
    refine .ended request before move turn _ hmakes hturn hnone ?_
    rw [hstage.result_eq]
    exact .inr ⟨index, rfl⟩

/-- A move in which no request of a lookup comes to an end continues its story. -/
theorem Story.quiet {s : Workload σ} {moves : List Move} {last : Move} {id : Nat}
    {task? : Option Task} (h : Story s moves id task?)
    (hquiet : (s.run moves).mover last = some id → (s.run moves).mapTurn last = none) :
    Story s (moves ++ [last]) id task? := by
  cases h with
  | waiting hwaits hnone =>
    refine .waiting hwaits fun before move hmakes => ?_
    obtain hbefore | ⟨rfl, rfl, hmover⟩ := makes_concat.mp hmakes
    · exact hnone before move hbefore
    · exact hquiet hmover
  | ended request before move turn stage hown hturn hnone hstage =>
    refine .ended request before move turn stage (makes_concat.mpr (.inl hown)) hturn ?_ hstage
    intro other later hmakes hother
    obtain hbefore | ⟨rfl, rfl, hmover⟩ := makes_concat.mp hmakes
    · exact hnone other later hbefore hother
    · exact hquiet hmover

/-- A move that leaves no task at the place of its lookup ends no request. -/
theorem mapTurn_of_no_task {s : Workload σ} {move : Move} {id : Nat}
    (hmover : s.mover move = some id) (h : (s.step move).tasks[id]? = none) :
    s.tasks[id]? = none ∧ s.mapTurn move = none := by
  have hbefore : s.tasks[id]? = none := by
    cases htask : s.tasks[id]? with
    | none => rfl
    | some task =>
      obtain ⟨stage, hstage, -⟩ := continues_run s [move] htask
      have hafter : (s.step move).tasks[id]? = some ⟨task.request, stage⟩ := hstage
      rw [h] at hafter
      cases hafter
  refine ⟨hbefore, ?_⟩
  cases move with
  | start request =>
    obtain rfl : s.tasks.length = id := Option.some.inj hmover
    simp only [step, begin] at h
    cases hstart : s.caches.start request.address with
    | none => simp only [mapTurn, hstart, Option.map_none]
    | some kept => simp only [hstart, List.getElem?_concat_length] at h; cases h
  | code other =>
    obtain rfl : other = id := Option.some.inj hmover
    simp only [mapTurn, hbefore]
  | index other => rfl
  | clear => rfl

/-- One more move continues the story of a lookup. -/
theorem Story.step {s : Workload σ} {moves : List Move} {id : Nat}
    (h : Story s moves id (s.run moves).tasks[id]?) (last : Move) :
    Story s (moves ++ [last]) id (s.run (moves ++ [last])).tasks[id]? := by
  have hrun : s.run (moves ++ [last]) = (s.run moves).step last := run_append s moves [last]
  rw [hrun]
  by_cases hmover : (s.run moves).mover last = some id
  · cases htask : ((s.run moves).step last).tasks[id]? with
    | none =>
      obtain ⟨hbefore, hturn⟩ := mapTurn_of_no_task hmover htask
      rw [hbefore] at h
      exact h.quiet fun _ => hturn
    | some task =>
      obtain ⟨request, stage⟩ := task
      cases advance_of_mover hmover htask with
      | ends turn hbefore hturn hstage =>
        -- Its request had not come to an end, so no other move has ended it.
        have hlast := makes_concat.mpr (.inr ⟨rfl, rfl, hmover⟩)
        refine .ended request moves last turn stage hlast hturn
          (fun other later hmakes hother => ?_) (hstage ▸ request.follows_follow turn.result)
        obtain hearlier | ⟨hsame, -⟩ := makes_concat.mp hmakes
        · exact h.mapTurn_eq_none (hbefore.imp_right fun hwaits => ⟨request, hwaits⟩) hearlier
        · exact absurd hsame hother
      | waits hbefore hturn hstage =>
        rw [hbefore] at h
        rw [hstage]
        exact (h.quiet fun _ => hturn).begun request
      | answers resolved hbefore hturn hstage =>
        rw [hbefore] at h
        rw [hstage, Resolver.answer_eq_outcome]
        exact (h.quiet fun _ => hturn).answered _
      | idles hbefore hturn =>
        rw [hbefore] at h
        exact h.quiet fun _ => hturn
  · -- The lookup stays where it is, and the move is none of its own.
    rw [step_of_not_mover hmover]
    exact h.quiet fun hown => absurd hown hmover

/-- Any number of moves continue the story of a lookup. -/
theorem Story.run {s : Workload σ} {moves : List Move} {id : Nat}
    (h : Story s moves id (s.run moves).tasks[id]?) (rest : List Move) :
    Story s (moves ++ rest) id (s.run (moves ++ rest)).tasks[id]? := by
  induction rest generalizing moves with
  | nil => rwa [List.append_nil]
  | cons move rest ih =>
    rw [List.append_cons]
    exact ih (h.step move)

/-- Every run gives every lookup that begins in it its story. -/
theorem story_run {s : Workload σ} {id : Nat} (hid : s.tasks[id]? = none) (moves : List Move) :
    Story s moves id (s.run moves).tasks[id]? := by
  have hnew : Story s [] id (s.run []).tasks[id]? := by
    refine .waiting (.inl hid) fun before move hmakes => ?_
    obtain ⟨hfirst, -⟩ := hmakes
    simp at hfirst
  exact hnew.run moves

end Workload

end CodeAtlas
