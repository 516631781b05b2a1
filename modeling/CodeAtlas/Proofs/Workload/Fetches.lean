import CodeAtlas.Proofs.Sequence
import CodeAtlas.Proofs.Workload.Moves

/-!
# How often code is asked for

A lookup asks for code when it begins and its source map is not kept, and waits for the answer. In a
`Workload` the provider is asked when its answer comes, so the questions of a lookup are those that
were answered in its own moves and the one for whose answer it waits (`Workload.questions`). A move
turns the second kind into the first (`Workload.asks_append_awaited`), so whatever other lookups do,
a lookup asks what it was waiting for when it had begun: for the code at its address, or for nothing
(`Workload.questions_start`).

`Workload.code_asked_once` puts this beside the law for lookups one after the other.
-/

namespace CodeAtlas

namespace Workload

variable {σ : Type}

/-- The address for whose code the lookup at a place waits. -/
def awaited (s : Workload σ) (id : Nat) : List CodeAddress :=
  match s.tasks[id]? with
  | some ⟨request, .awaitingCode⟩ => [request.address]
  | _ => []

/-- A lookup that does not wait for code waits for the code at no address. -/
theorem awaited_eq_nil {s : Workload σ} {id : Nat}
    (h : ∀ request, s.tasks[id]? ≠ some ⟨request, .awaitingCode⟩) : s.awaited id = [] := by
  unfold awaited
  split
  · rename_i request htask
    exact absurd htask (h request)
  · rfl

/-! ## Noting does not show -/

/-- The workload over the provider that is metered. -/
def bare (s : Workload (Metered σ)) : Workload σ :=
  ⟨s.resolver.bare, s.tasks, s.found⟩

variable [CodeProvider σ]

/-- A move does the same without the notes. -/
theorem step_bare (s : Workload (Metered σ)) (move : Move) :
    s.bare.step move = (s.step move).bare := by
  have htasks : s.bare.tasks = s.tasks := rfl
  cases move with
  | start request =>
    have hcaches : s.bare.caches = s.caches := rfl
    simp only [step, begin, hcaches]
    cases s.caches.start request.address <;> rfl
  | code id =>
    simp only [step, htasks]
    cases s.tasks[id]? with
    | none => rfl
    | some task =>
      obtain ⟨request, stage⟩ := task
      cases stage <;> rfl
  | index id =>
    simp only [step, htasks]
    cases s.tasks[id]? with
    | none => rfl
    | some task =>
      obtain ⟨request, stage⟩ := task
      cases stage with
      | awaitingIndex resolved =>
        have hanswer : s.bare.resolver.answer request resolved =
            (s.resolver.answer request resolved).bare := s.resolver.answer_bare request resolved
        simp only [receiveIndex, hanswer]
        rfl
      | awaitingCode => rfl
      | done result => rfl
  | clear => rfl

/-- A run does the same without the notes. -/
theorem run_bare (s : Workload (Metered σ)) (moves : List Move) :
    s.bare.run moves = (s.run moves).bare := by
  induction moves generalizing s with
  | nil => rfl
  | cons move moves ih =>
    show (s.bare.step move).run moves = ((s.step move).run moves).bare
    rw [step_bare, ih]

/-! ## The questions of a lookup -/

/-- For which code the provider is asked in a move. -/
def asks (s : Workload (Metered σ)) (move : Move) : List CodeAddress :=
  (s.step move).resolver.provider.fetches.drop s.resolver.provider.fetches.length

/-- For which code the provider is asked in the moves of the lookup at a place. -/
def asksBy (id : Nat) (s : Workload (Metered σ)) : List Move → List CodeAddress
  | [] => []
  | move :: moves =>
    (if s.mover move = some id then s.asks move else []) ++ asksBy id (s.step move) moves

/-- For which code the lookup at a place asks: the provider has answered or is yet to answer. -/
def questions (id : Nat) (s : Workload (Metered σ)) (moves : List Move) : List CodeAddress :=
  s.asksBy id moves ++ (s.run moves).awaited id

/-- The provider is asked for the code that a lookup waits for when it comes, and at no other
time. -/
theorem asks_eq (s : Workload (Metered σ)) (move : Move) :
    s.asks move = match move with
      | .code id => s.awaited id
      | _ => [] := by
  unfold asks
  cases move with
  | start request =>
    simp only [step, begin]
    cases s.caches.start request.address <;> exact List.drop_length
  | code id =>
    simp only [step, awaited]
    cases s.tasks[id]? with
    | none => exact List.drop_length
    | some task =>
      obtain ⟨request, stage⟩ := task
      cases stage with
      | awaitingCode => exact List.drop_left
      | awaitingIndex resolved => exact List.drop_length
      | done result => exact List.drop_length
  | index id =>
    simp only [step]
    split
    · simp [receiveIndex]
    · exact List.drop_length
  | clear => exact List.drop_length

/-- When its code has come, a lookup does not wait for code. -/
theorem awaited_step_code {s : Workload σ} {id : Nat} (hid : id < s.tasks.length) :
    (s.step (.code id)).awaited id = [] := by
  refine awaited_eq_nil fun request htask => ?_
  cases advance_code htask with
  | ends turn hbefore hturn hstage =>
    exact (request.follows_follow turn.result).ne_awaitingCode hstage.symm
  | waits hbefore hturn hstage =>
    exact absurd (List.getElem?_eq_none_iff.mp hbefore) (Nat.not_le_of_lt hid)
  | answers resolved hbefore hturn hstage => cases hstage
  | idles hbefore hturn =>
    rw [mapTurn_code hbefore] at hturn
    cases hturn

/-- The index of an instruction does not change for which code a lookup waits. -/
theorem awaited_step_index (s : Workload σ) (id : Nat) :
    (s.step (.index id)).awaited id = s.awaited id := by
  simp only [step]
  split
  · rename_i request resolved htask
    obtain ⟨hlt, -⟩ := List.getElem?_eq_some_iff.mp htask
    simp only [awaited, receiveIndex, List.getElem?_set_self hlt, htask]
  · rfl

/-- A lookup that begins waits for code if its source map is not kept. -/
theorem awaited_step_start (s : Workload σ) (request : Lookup) :
    (s.step (.start request)).awaited s.tasks.length =
      if (s.caches.cached request.address).isSome then [] else [request.address] := by
  simp only [step, begin, Caches.start]
  cases s.caches.cached request.address with
  | none =>
    simp only [awaited, List.getElem?_concat_length]
    rfl
  | some kept =>
    refine awaited_eq_nil fun other htask => ?_
    rw [List.getElem?_concat_length, Option.some.injEq, Task.mk.injEq] at htask
    exact (request.follows_follow (.ok kept)).ne_awaitingCode htask.2

/-- A move answers what the lookup at a place waits for, or lets it wait. -/
theorem asks_append_awaited {s : Workload (Metered σ)} {id : Nat} (hid : id < s.tasks.length)
    (move : Move) :
    (if s.mover move = some id then s.asks move else []) ++ (s.step move).awaited id =
      s.awaited id := by
  rw [asks_eq]
  by_cases hmover : s.mover move = some id
  · rw [if_pos hmover]
    cases move with
    | start request =>
      obtain rfl : s.tasks.length = id := Option.some.inj hmover
      exact absurd hid (Nat.lt_irrefl _)
    | code other =>
      -- What it has waited for is asked now, and it waits for no more.
      obtain rfl : other = id := Option.some.inj hmover
      show s.awaited other ++ _ = _
      rw [awaited_step_code hid, List.append_nil]
    | index other =>
      obtain rfl : other = id := Option.some.inj hmover
      exact awaited_step_index s other
    | clear => cases hmover
  · rw [if_neg hmover, awaited, step_of_not_mover hmover]
    rfl

/-- A lookup that has begun asks for what it waits for, and for no more. -/
theorem questions_of_begun {s : Workload (Metered σ)} {id : Nat} (hid : id < s.tasks.length)
    (moves : List Move) : s.questions id moves = s.awaited id := by
  induction moves generalizing s with
  | nil => rfl
  | cons move moves ih =>
    have hstill : id < (s.step move).tasks.length := by
      obtain ⟨stage, hstage, -⟩ := continues_run s [move] (List.getElem?_eq_getElem hid)
      exact (List.getElem?_eq_some_iff.mp hstage).1
    have hrest : (s.step move).asksBy id moves ++ ((s.step move).run moves).awaited id =
        (s.step move).awaited id := ih hstill
    show (_ ++ (s.step move).asksBy id moves) ++ ((s.step move).run moves).awaited id = _
    rw [List.append_assoc, hrest, asks_append_awaited hid]

/-- A lookup asks for the code at its address if its source map is not kept when it begins, and else
for none. -/
theorem questions_start (s : Workload (Metered σ)) (request : Lookup) (moves : List Move) :
    s.questions s.tasks.length (.start request :: moves) =
      if (s.caches.cached request.address).isSome then [] else [request.address] := by
  have hbegun : s.tasks.length < (s.step (.start request)).tasks.length := by
    simp only [step, begin]
    cases s.caches.start request.address <;> simp
  have hasks : s.asks (.start request) = [] := s.asks_eq (.start request)
  have hrest : s.questions s.tasks.length (.start request :: moves) =
      (s.step (.start request)).questions s.tasks.length moves := by
    simp only [questions, asksBy, mover, if_true, hasks, List.nil_append]
    rfl
  rw [hrest, questions_of_begun hbegun, awaited_step_start]

/-! ## The laws -/

/-- Code is asked for as follows.

* Lookups run one after the other on a resolver that keeps no source map for a deployed address.
  Then its code is asked for as often as it is looked up until a request for its source map
  succeeds, that one included, and every time if none does.
* Behind that one, every lookup of the source map finds the same one and changes nothing, so it asks
  for nothing. What artifacts there are and what the provider has become does not matter.
* While other lookups are under way, a lookup asks for the code at its address once if its source
  map is not kept when it begins, and else for none. -/
theorem code_asked_once :
    (∀ (resolver : Resolver (Metered σ)) (account : Address) (requests : List Lookup),
      resolver.caches.cached (.deployed account) = none →
      (resolver.forEach Resolver.lookup requests).resolver.provider.fetches.count
          (.deployed account) =
        resolver.provider.fetches.count (.deployed account) +
          ((resolver.tries (.deployed account) requests).take
            ((resolver.tries (.deployed account) requests).idxOf true + 1)).length) ∧
    (∀ (resolver : Resolver (Metered σ)) (before after : List Lookup) (request : Lookup)
      (account : Address) (resolved : Resolved), request.address = .deployed account →
      ((resolver.forEach Resolver.lookup before).resolver.lookup
        ⟨request.address, request.artifacts, .map⟩).result = .ok (.map resolved) →
      ∀ (provider : Metered σ) (artifacts : ArtifactSet),
        let later := (resolver.forEach Resolver.lookup
          (before ++ request :: after)).resolver.withProvider provider
        (later.lookup ⟨.deployed account, artifacts, .map⟩).result = .ok (.map resolved) ∧
          (later.lookup ⟨.deployed account, artifacts, .map⟩).resolver = later) ∧
    ∀ (s : Workload (Metered σ)) (request : Lookup) (moves : List Move),
      s.questions s.tasks.length (.start request :: moves) =
        if (s.caches.cached request.address).isSome then [] else [request.address] :=
  ⟨fun _ _ requests h => Resolver.count_fetches_forEach h requests,
    fun _ _ _ _ _ _ haddress hresolved provider artifacts =>
      Resolver.lookup_behind haddress hresolved provider artifacts,
    questions_start⟩

/-- The code of an account is asked for by a lookup without artifacts and by one that finds the
source map, but not the entry. The lookup behind them finds the source map without artifacts and
where there is no code. -/
theorem code_asked_once_of_failures :
    ((Resolver.overTrace raceTrace).forEach Resolver.lookup
        [⟨.deployed .sample, .ofList [], .map⟩, ⟨.deployed .sample, raceArtifacts 0, .atIndex 1⟩,
          ⟨.deployed .sample, .ofList [], .map⟩]).resolver.provider.fetches.count
      (.deployed .sample) = 2 ∧
    ((((Resolver.overTrace raceTrace).forEach Resolver.lookup
          [⟨.deployed .sample, .ofList [], .map⟩,
            ⟨.deployed .sample, raceArtifacts 0, .atIndex 1⟩]).resolver.withProvider
        (⟨.empty, []⟩ : Metered RecordedTrace)).lookup
      ⟨.deployed .sample, .ofList [], .map⟩).result = .ok (.map (raceResolved 0)) := by
  obtain ⟨hcount, hlater, -⟩ := @code_asked_once RecordedTrace _
  constructor
  · exact hcount (.overTrace raceTrace) .sample _ rfl
  · have hbehind := hlater (.overTrace raceTrace) [⟨.deployed .sample, .ofList [], .map⟩] []
      ⟨.deployed .sample, raceArtifacts 0, .atIndex 1⟩ .sample (raceResolved 0) rfl rfl
    exact (hbehind ⟨.empty, []⟩ (.ofList [])).1

end Workload

end CodeAtlas
