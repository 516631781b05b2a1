import CodeAtlas.Proofs.Trace

/-!
# Lookups under way together

A resolver serves any number of lookups at a time. A lookup can be overtaken by others where it
waits for an answer: for the code at its address, and then, if it asks for a step of the trace, for
the index of an instruction. A `Workload` is a resolver with the lookups that were begun on it and
how far each has come, and a `Move` is what can happen next: a lookup begins, an answer that one
waits for comes, or everything that is kept is forgotten. Any list of moves is a run, so what holds
after every run holds for every interleaving.

The provider is asked when its answer comes. As its type is arbitrary and each answer may change it,
it can give any sequence of answers.

`Step` lists what a move can do, one case for each way in which a lookup goes on, and
`step_spec` shows that `Workload.step` does nothing else. What a run preserves is proved by cases on
`Step` and carried over by `run_induction`.
-/

namespace CodeAtlas

/-- How far a lookup has come. -/
inductive Stage
  /-- It waits for the code at its address. -/
  | awaitingCode
  /-- It has its source map and waits for the index of an instruction. -/
  | awaitingIndex (resolved : Resolved)
  /-- It has come to its end. -/
  | done (result : LookupResult)

/-- A lookup that was begun. -/
structure Task where
  /-- What was asked. -/
  request : Lookup
  /-- How far it has come. -/
  stage : Stage

/-- How a lookup goes on when it has its source map. -/
def Lookup.proceed (request : Lookup) (resolved : Resolved) : Stage :=
  match request.query with
  | .map => .done (.ok (.map resolved))
  | .atIndex index => .done ((resolved.map.lookup index).map .entry)
  | .atStep _ => .awaitingIndex resolved

/-- A resolver and the lookups that were begun on it. -/
structure Workload (σ : Type) where
  /-- The resolver. -/
  resolver : Resolver σ
  /-- The lookups in the order in which they began. A lookup is known by its place. -/
  tasks : List Task := []
  /-- What the lookups that fetched code have resolved it to since the caches were last cleared, by
  address and in order. It is not part of the program and nothing depends on it. -/
  found : List (CodeAddress × Resolved) := []

/-- What can happen next. -/
inductive Move
  /-- A lookup begins. -/
  | start (request : Lookup)
  /-- The code that a lookup waits for comes. -/
  | code (id : Nat)
  /-- The index of an instruction that a lookup waits for comes. -/
  | index (id : Nat)
  /-- Everything that is kept is forgotten. -/
  | clear

namespace Workload

variable {σ : Type}

/-- The source maps and generated sources that are kept. -/
abbrev caches (s : Workload σ) : Caches :=
  s.resolver.caches

/-! ## How far a lookup has come -/

/-- A lookup that has come as far as `task` has come further, or as far: it asks the same, and its
result is the same if it was done. -/
def Continues (s : Workload σ) (id : Nat) (task : Task) : Prop :=
  ∃ stage, s.tasks[id]? = some ⟨task.request, stage⟩ ∧
    ∀ result, task.stage = .done result → stage = .done result

/-- Letting a lookup go on that waits continues every lookup. -/
theorem continues_set {s s' : Workload σ} {id other : Nat} {task : Task} {request : Lookup}
    {waiting stage : Stage} (h : s.Continues id task)
    (hwaits : s.tasks[other]? = some ⟨request, waiting⟩) (hwaiting : ∀ result, waiting ≠ .done result)
    (htasks : s'.tasks = s.tasks.set other ⟨request, stage⟩) : s'.Continues id task := by
  obtain ⟨reached, hreached, hkeep⟩ := h
  obtain ⟨hlt, -⟩ := List.getElem?_eq_some_iff.mp hreached
  by_cases hsame : other = id
  · subst hsame
    rw [hreached] at hwaits
    cases hwaits
    refine ⟨stage, by rw [htasks, List.getElem?_set_self hlt], fun result hdone => ?_⟩
    exact absurd (hkeep result hdone) (hwaiting result)
  · exact ⟨reached, by rw [htasks, List.getElem?_set_ne hsame, hreached], hkeep⟩

/-- Beginning a lookup continues every lookup that was begun before. -/
theorem continues_append {s s' : Workload σ} {id : Nat} {task next : Task} (h : s.Continues id task)
    (htasks : s'.tasks = s.tasks ++ [next]) : s'.Continues id task := by
  obtain ⟨reached, hreached, hkeep⟩ := h
  obtain ⟨hlt, -⟩ := List.getElem?_eq_some_iff.mp hreached
  exact ⟨reached, by rw [htasks, List.getElem?_append_left hlt, hreached], hkeep⟩

/-! ## Moves -/

variable [CodeProvider σ]

/-- A lookup begins: it has its source map at once or waits for code. -/
def begin (s : Workload σ) (request : Lookup) : Workload σ :=
  match s.caches.start request.address with
  | some resolved => { s with tasks := s.tasks ++ [⟨request, request.proceed resolved⟩] }
  | none => { s with tasks := s.tasks ++ [⟨request, .awaitingCode⟩] }

/-- The code comes that the lookup at a place waits for. -/
def receiveCode (s : Workload σ) (id : Nat) (request : Lookup) : Workload σ :=
  let fetched := s.resolver.fetch request.address request.artifacts
  let stage :=
    match fetched.result with
    | .error error => .done (.error error)
    | .ok resolved => request.proceed resolved
  let found :=
    match s.resolver.resolution request.address request.artifacts with
    | .error _ => []
    | .ok resolved => [(request.address, resolved)]
  { resolver := fetched.resolver, tasks := s.tasks.set id ⟨request, stage⟩,
    found := s.found ++ found }

/-- The index comes that the lookup at a place waits for. -/
def receiveIndex (s : Workload σ) (id : Nat) (request : Lookup) (resolved : Resolved) :
    Workload σ :=
  let answered := s.resolver.answer request resolved
  { s with resolver := answered.resolver, tasks := s.tasks.set id ⟨request, .done answered.result⟩ }

/-- Makes a move. An answer for which no lookup waits changes nothing. -/
def step (s : Workload σ) : Move → Workload σ
  | .start request => s.begin request
  | .code id =>
    match s.tasks[id]? with
    | some ⟨request, .awaitingCode⟩ => s.receiveCode id request
    | _ => s
  | .index id =>
    match s.tasks[id]? with
    | some ⟨request, .awaitingIndex resolved⟩ => s.receiveIndex id request resolved
    | _ => s
  | .clear => { s with resolver := s.resolver.clear.resolver, found := [] }

/-- Makes moves, one after the other. -/
def run (s : Workload σ) (moves : List Move) : Workload σ :=
  moves.foldl step s

/-! ## What a move can do -/

/-- The cases of a move. -/
inductive Step (s : Workload σ) : Move → Workload σ → Prop
  /-- A lookup begins whose source map is kept. -/
  | hit (request : Lookup) (kept : Resolved) (hkept : s.caches.cached request.address = some kept) :
    Step s (.start request) { s with tasks := s.tasks ++ [⟨request, request.proceed kept⟩] }
  /-- A lookup begins whose source map is not kept. -/
  | miss (request : Lookup) (hnone : s.caches.cached request.address = none) :
    Step s (.start request) { s with tasks := s.tasks ++ [⟨request, .awaitingCode⟩] }
  /-- The code that comes resolves to nothing: the lookup fails and nothing is recorded. -/
  | fail (id : Nat) (request : Lookup) (error : LookupError)
    (htask : s.tasks[id]? = some ⟨request, .awaitingCode⟩)
    (hresolution : s.resolver.resolution request.address request.artifacts = .error error) :
    Step s (.code id)
      { s with
        resolver := s.resolver.asked request.address
        tasks := s.tasks.set id ⟨request, .done (.error error)⟩ }
  /-- The code that comes resolves to a source map: it is recorded, and the lookup goes on with the
  one that is kept. -/
  | resolve (id : Nat) (request : Lookup) (resolved : Resolved)
    (htask : s.tasks[id]? = some ⟨request, .awaitingCode⟩)
    (hresolution : s.resolver.resolution request.address request.artifacts = .ok resolved) :
    Step s (.code id)
      { resolver := s.resolver.recorded request.address resolved
        tasks := s.tasks.set id
          ⟨request, request.proceed ((s.caches.cached request.address).getD resolved)⟩
        found := s.found ++ [(request.address, resolved)] }
  /-- The index comes that a lookup waits for. -/
  | answer (id : Nat) (request : Lookup) (resolved : Resolved)
    (htask : s.tasks[id]? = some ⟨request, .awaitingIndex resolved⟩) :
    Step s (.index id)
      { s with
        resolver := (s.resolver.answer request resolved).resolver
        tasks := s.tasks.set id ⟨request, .done (s.resolver.answer request resolved).result⟩ }
  /-- An answer comes for which no lookup waits. -/
  | idle (id : Nat) (move : Move) (hmove : move = .code id ∨ move = .index id) : Step s move s
  /-- Everything that is kept is forgotten. -/
  | clear : Step s .clear { s with resolver := { s.resolver with caches := .empty }, found := [] }

/-- A move does one of the things listed. -/
theorem step_spec (s : Workload σ) (move : Move) : Step s move (s.step move) := by
  cases move with
  | start request =>
    simp only [step, begin]
    cases hkept : s.caches.start request.address with
    | some kept => exact .hit request kept hkept
    | none => exact .miss request hkept
  | code id =>
    simp only [step]
    split
    · rename_i request htask
      simp only [receiveCode]
      cases hresolution : s.resolver.resolution request.address request.artifacts with
      | error error =>
        obtain ⟨hresult, hresolver⟩ := Resolver.fetch_of_error hresolution
        simp only [hresult, hresolver, List.append_nil]
        exact .fail id request error htask hresolution
      | ok resolved =>
        obtain ⟨hresult, hresolver⟩ := Resolver.fetch_of_ok hresolution
        simp only [hresult, hresolver]
        exact .resolve id request resolved htask hresolution
    · exact .idle id _ (.inl rfl)
  | index id =>
    simp only [step]
    split
    · rename_i request resolved htask
      exact .answer id request resolved htask
    · exact .idle id _ (.inr rfl)
  | clear => exact .clear

/-! ## Runs -/

/-- A run in two parts. -/
theorem run_append (s : Workload σ) (first second : List Move) :
    s.run (first ++ second) = (s.run first).run second := by
  unfold run
  rw [List.foldl_append]

/-- What every move of a run preserves, the run preserves. -/
theorem run_induction {P : Workload σ → Prop} {moves : List Move}
    (hstep : ∀ s s', ∀ move ∈ moves, Step s move s' → P s → P s') {s : Workload σ} (h : P s) :
    P (s.run moves) := by
  induction moves generalizing s with
  | nil => exact h
  | cons move rest ih =>
    have hhead := hstep s (s.step move) move List.mem_cons_self (s.step_spec move)
    have hrest : ∀ s s', ∀ move ∈ rest, Step s move s' → P s → P s' := fun s s' later hlater =>
      hstep s s' later (List.mem_cons_of_mem _ hlater)
    exact ih hrest (hhead h)

/-- A new resolver on which no lookup was begun. -/
def new (provider : σ) (isMatch : Matcher) : Workload σ :=
  { resolver := { provider, isMatch } }

/-- A workload that has come about on a new resolver. -/
def Reachable (s : Workload σ) : Prop :=
  ∃ provider isMatch moves, s = (new provider isMatch).run moves

/-- A run from a reachable workload ends in one. -/
theorem Reachable.run {s : Workload σ} (h : s.Reachable) (moves : List Move) :
    (s.run moves).Reachable := by
  obtain ⟨provider, isMatch, before, rfl⟩ := h
  exact ⟨provider, isMatch, before ++ moves, by rw [run_append]⟩

/-- What holds of a new resolver and is preserved by every move holds of every reachable
workload. -/
theorem Reachable.induction {P : Workload σ → Prop}
    (hnew : ∀ provider isMatch, P (new provider isMatch))
    (hstep : ∀ s s' move, Step s move s' → P s → P s') {s : Workload σ} (h : s.Reachable) : P s := by
  obtain ⟨provider, isMatch, moves, rfl⟩ := h
  exact run_induction (fun s s' move _ => hstep s s' move) (hnew provider isMatch)

/-! ## One lookup among the tasks -/

/-- Every move continues every lookup. -/
theorem Step.continues {s s' : Workload σ} {move : Move} (hstep : Step s move s') {id : Nat}
    {task : Task} (h : s.Continues id task) : s'.Continues id task := by
  cases hstep with
  | hit request kept hkept => exact continues_append h rfl
  | miss request hnone => exact continues_append h rfl
  | fail other request error htask hresolution =>
    exact continues_set h htask (fun result => by simp) rfl
  | resolve other request resolved htask hresolution =>
    exact continues_set h htask (fun result => by simp) rfl
  | answer other request resolved htask => exact continues_set h htask (fun result => by simp) rfl
  | idle other move hmove => exact h
  | clear => exact h

/-- Every run continues every lookup that was begun before. -/
theorem continues_run (s : Workload σ) (moves : List Move) {id : Nat} {task : Task}
    (h : s.tasks[id]? = some task) : (s.run moves).Continues id task := by
  have hhere : s.Continues id task := ⟨task.stage, h, fun _ hdone => hdone⟩
  exact run_induction (P := fun s => s.Continues id task)
    (fun _ _ _ _ hstep hs => hstep.continues hs) hhere

/-- Where the stage comes from that the lookup at a place has behind a move: it had it before, or
the move let it begin or go on. -/
inductive Origin (s : Workload σ) (move : Move) (s' : Workload σ) (id : Nat) (request : Lookup)
    (stage : Stage) : Prop
  /-- It had it before. -/
  | same (htask : s.tasks[id]? = some ⟨request, stage⟩)
  /-- It has begun with a source map that is kept. -/
  | hit (kept : Resolved) (hmove : move = .start request)
    (hkept : s'.caches.cached request.address = some kept) (hstage : stage = request.proceed kept)
  /-- It has begun without a source map. -/
  | miss (hmove : move = .start request) (hstage : stage = .awaitingCode)
  /-- Its code has come and resolved to nothing. -/
  | fail (error : LookupError) (htask : s.tasks[id]? = some ⟨request, .awaitingCode⟩)
    (hresolution : s.resolver.resolution request.address request.artifacts = .error error)
    (hstage : stage = .done (.error error))
  /-- Its code has come and resolved to a source map. -/
  | resolve (resolved : Resolved) (htask : s.tasks[id]? = some ⟨request, .awaitingCode⟩)
    (hresolution : s.resolver.resolution request.address request.artifacts = .ok resolved)
    (hresolver : s'.resolver = s.resolver.recorded request.address resolved)
    (hstage : stage = request.proceed ((s.caches.cached request.address).getD resolved))
  /-- Its index has come. -/
  | answer (resolved : Resolved) (htask : s.tasks[id]? = some ⟨request, .awaitingIndex resolved⟩)
    (hstage : stage = .done (s.resolver.answer request resolved).result)

/-- A task behind a move that adds one is the one that was added, or it was there before. -/
theorem getElem?_append_task {tasks : List Task} {id : Nat} {next task : Task}
    (h : (tasks ++ [next])[id]? = some task) : tasks[id]? = some task ∨ task = next := by
  rw [List.getElem?_append] at h
  split at h
  · exact .inl h
  · exact .inr (List.mem_singleton.mp (List.mem_of_getElem? h))

/-- A task behind a move that replaces one is the one that was put there, or it was there before. -/
theorem getElem?_set_task {tasks : List Task} {id other : Nat} {next task : Task}
    (h : (tasks.set other next)[id]? = some task) :
    tasks[id]? = some task ∨ other = id ∧ task = next := by
  by_cases hsame : other = id
  · subst hsame
    have hlt : other < tasks.length := by
      obtain ⟨hlt, -⟩ := List.getElem?_eq_some_iff.mp h
      rwa [List.length_set] at hlt
    rw [List.getElem?_set_self hlt] at h
    cases h
    exact .inr ⟨rfl, rfl⟩
  · rw [List.getElem?_set_ne hsame] at h
    exact .inl h

/-- Every task behind a move has an origin. -/
theorem Step.origin {s s' : Workload σ} {move : Move} (hstep : Step s move s') {id : Nat}
    {request : Lookup} {stage : Stage} (h : s'.tasks[id]? = some ⟨request, stage⟩) :
    Origin s move s' id request stage := by
  -- A move adds a task at the end or replaces one, and leaves all others.
  cases hstep with
  | hit begun kept hkept =>
    rcases getElem?_append_task h with hbefore | hnew
    · exact .same hbefore
    · cases hnew
      exact .hit kept rfl hkept rfl
  | miss begun hnone =>
    rcases getElem?_append_task h with hbefore | hnew
    · exact .same hbefore
    · cases hnew
      exact .miss rfl rfl
  | fail other waiting error htask hresolution =>
    rcases getElem?_set_task h with hbefore | ⟨rfl, hnew⟩
    · exact .same hbefore
    · cases hnew
      exact .fail error htask hresolution rfl
  | resolve other waiting resolved htask hresolution =>
    rcases getElem?_set_task h with hbefore | ⟨rfl, hnew⟩
    · exact .same hbefore
    · cases hnew
      exact .resolve resolved htask hresolution rfl rfl
  | answer other waiting resolved htask =>
    rcases getElem?_set_task h with hbefore | ⟨rfl, hnew⟩
    · exact .same hbefore
    · cases hnew
      exact .answer resolved htask rfl
  | idle other move hmove => exact .same h
  | clear => exact .same h

/-- Only lookups for a step of the trace wait for an index. -/
def StepsWait (s : Workload σ) : Prop :=
  ∀ (id : Nat) (request : Lookup) (resolved : Resolved),
    s.tasks[id]? = some ⟨request, .awaitingIndex resolved⟩ → ∃ step, request.query = .atStep step

/-- A lookup that waits for an index when it has its source map is one for a step of the trace. -/
theorem query_of_proceed {request : Lookup} {resolved other : Resolved}
    (h : .awaitingIndex other = request.proceed resolved) :
    ∃ step, request.query = .atStep step := by
  unfold Lookup.proceed at h
  cases hquery : request.query with
  | map => simp [hquery] at h
  | atIndex index => simp [hquery] at h
  | atStep step => exact ⟨step, rfl⟩

/-- Every move lets only lookups for a step of the trace wait for an index. -/
theorem Step.stepsWait {s s' : Workload σ} {move : Move} (hstep : Step s move s')
    (h : s.StepsWait) : s'.StepsWait := by
  intro id request resolved htask
  cases hstep.origin htask with
  | same hbefore => exact h id request resolved hbefore
  | hit kept hmove hkept hstage => exact query_of_proceed hstage
  | miss hmove hstage => cases hstage
  | fail error hbefore hresolution hstage => cases hstage
  | resolve own hbefore hresolution hresolver hstage => exact query_of_proceed hstage
  | answer own hbefore hstage => cases hstage

/-- In a reachable workload only lookups for a step of the trace wait for an index. -/
theorem Reachable.stepsWait {s : Workload σ} (h : s.Reachable) : s.StepsWait :=
  h.induction (fun _ _ id request resolved htask => by simp [new] at htask)
    (fun _ _ _ hstep hs => hstep.stepsWait hs)

/-- A lookup that has its source map waits for an index, or it is done as its resolver answers it
without asking. -/
theorem proceed_cases (resolver : Resolver σ) (request : Lookup) (resolved : Resolved) :
    request.proceed resolved = .awaitingIndex resolved ∨
      (request.proceed resolved = .done (resolver.answer request resolved).result ∧
        (resolver.answer request resolved).resolver = resolver) := by
  unfold Lookup.proceed Resolver.answer
  cases request.query with
  | map => exact .inr ⟨rfl, rfl⟩
  | atIndex index => exact .inr ⟨rfl, rfl⟩
  | atStep step => exact .inl rfl

/-- A lookup that has its source map is done after the next answer, as its resolver answers it. -/
theorem step_index_of_proceed {s : Workload σ} {id : Nat} {request : Lookup} {resolved : Resolved}
    (h : s.tasks[id]? = some ⟨request, request.proceed resolved⟩) :
    s.step (.index id) =
      { s with
        resolver := (s.resolver.answer request resolved).resolver
        tasks := s.tasks.set id ⟨request, .done (s.resolver.answer request resolved).result⟩ } := by
  simp only [step, h]
  rcases proceed_cases s.resolver request resolved with hstage | ⟨hstage, hresolver⟩
  · rw [hstage]
    rfl
  · obtain ⟨hlt, htask⟩ := List.getElem?_eq_some_iff.mp h
    rw [hstage] at htask ⊢
    simp only [hresolver, ← htask, List.set_getElem_self]

/-- The answers for one lookup bring it to its end. -/
theorem done_of_answers (s : Workload σ) {id : Nat} {task : Task} (h : s.tasks[id]? = some task) :
    ∃ result, (s.run [.code id, .index id]).tasks[id]? = some ⟨task.request, .done result⟩ := by
  obtain ⟨hlt, -⟩ := List.getElem?_eq_some_iff.mp h
  obtain ⟨request, stage⟩ := task
  -- Behind the code the lookup is done or waits for an index.
  have hcode : (∃ result, (s.step (.code id)).tasks[id]? = some ⟨request, .done result⟩) ∨
      ∃ resolved, (s.step (.code id)).tasks[id]? = some ⟨request, .awaitingIndex resolved⟩ := by
    cases stage with
    | awaitingCode =>
      simp only [step, h, receiveCode, List.getElem?_set_self hlt]
      split
      · exact .inl ⟨_, rfl⟩
      · rename_i resolved hresult
        rcases proceed_cases s.resolver request resolved with hstage | ⟨hstage, -⟩
        · exact .inr ⟨resolved, by rw [hstage]⟩
        · exact .inl ⟨_, by rw [hstage]⟩
    | awaitingIndex resolved => exact .inr ⟨resolved, by simp only [step, h]⟩
    | done result => exact .inl ⟨result, by simp only [step, h]⟩
  show ∃ result, ((s.step (.code id)).step (.index id)).tasks[id]? = some ⟨request, .done result⟩
  generalize s.step (.code id) = s' at hcode ⊢
  rcases hcode with ⟨result, htask⟩ | ⟨resolved, htask⟩
  · exact ⟨result, by simp only [step, htask]⟩
  · obtain ⟨hlt', -⟩ := List.getElem?_eq_some_iff.mp htask
    refine ⟨(s'.resolver.answer request resolved).result, ?_⟩
    simp only [step, htask, receiveIndex, List.getElem?_set_self hlt']

/-! ## Lookups that race

Two lookups of one account with artifacts of their own. Both artifacts match the code, and they
differ in the source that the compiler has generated. -/

/-- A trace with code of a single byte at an account. -/
def raceTrace : RecordedTrace :=
  RecordedTrace.empty.insertCode (.deployed .sample) [0x00]

/-- What the compiler has generated with the artifacts of a number. -/
def raceSources (number : UInt32) : List GeneratedSource :=
  [⟨number, "#utility.yul", "Yul", "", .null⟩]

/-- The artifacts of a number: a contract that compiles to the code of the account. -/
def raceArtifacts (number : UInt32) : ArtifactSet :=
  .ofList [(⟨"C.sol"⟩, "C", ⟨none, some ⟨some
    ⟨.plain [0x00], some "0:1:0", raceSources number, []⟩, []⟩⟩)]

/-- What the code of the account resolves to with the artifacts of a number. -/
def raceResolved (number : UInt32) : Resolved :=
  ⟨⟨[⟨0, 1, 0, .regular, 0⟩]⟩, raceSources number⟩

/-- Two lookups of the account that have begun and wait for its code. -/
def race : Workload RecordedTrace :=
  (new raceTrace MatchPolicy.exact.accepts).run
    [.start ⟨.deployed .sample, raceArtifacts 0, .map⟩,
      .start ⟨.deployed .sample, raceArtifacts 1, .map⟩]

end Workload

end CodeAtlas
