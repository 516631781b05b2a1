import CodeAtlas.Proofs.Workload

/-!
# Schedules

Two runs of a workload are those of a resolver. A lookup that no other overtakes comes to what
`Resolver.lookup` makes of it (`run_lookup`), and lookups of which all begin before the first goes
on come to what `Resolver.join` makes of them (`run_join`). Both are put together from what a lookup
does until it needs code (`run_begin`) and from there to its end (`run_conclude`). An answer for
which no lookup waits changes nothing, so a schedule lets the answers come that a lookup may need.
-/

namespace CodeAtlas.Workload

variable {σ : Type} [CodeProvider σ]

/-- How far a lookup has come that was run until it needs code. -/
def begun : Option LookupResult → Stage
  | none => .awaitingCode
  | some result => .done result

/-- The task behind others. -/
theorem getElem?_behind (before after : List Task) (task : Task) :
    (before ++ task :: after)[before.length]? = some task := by
  rw [List.getElem?_append_right (Nat.le_refl _), Nat.sub_self, List.getElem?_cons_zero]

/-- Letting the task behind others go on replaces it. -/
theorem set_behind (before after : List Task) (task next : Task) :
    (before ++ task :: after).set before.length next = before ++ next :: after := by
  rw [List.set_append_right _ _ (Nat.le_refl _), Nat.sub_self, List.set_cons_zero]

/-- A lookup that has its source map is done after the next answer. -/
theorem step_index_behind {s : Workload σ} {before after : List Task} {request : Lookup}
    {resolved : Resolved} (h : s.tasks = before ++ ⟨request, request.proceed resolved⟩ :: after) :
    (s.step (.index before.length)).resolver = (s.resolver.answer request resolved).resolver ∧
      (s.step (.index before.length)).tasks =
        before ++ ⟨request, .done (s.resolver.answer request resolved).result⟩ :: after := by
  have htask : s.tasks[before.length]? = some ⟨request, request.proceed resolved⟩ := by
    rw [h, getElem?_behind]
  rw [step_index_of_proceed htask]
  refine ⟨rfl, ?_⟩
  show s.tasks.set before.length _ = _
  rw [h, set_behind]

/-- A lookup that begins does what `Resolver.begin` does. -/
theorem run_begin (s : Workload σ) (request : Lookup) :
    (s.run [.start request, .index s.tasks.length]).resolver =
        (s.resolver.begin request).resolver ∧
      (s.run [.start request, .index s.tasks.length]).tasks =
        s.tasks ++ [⟨request, begun (s.resolver.begin request).result⟩] := by
  show ((s.step (.start request)).step (.index s.tasks.length)).resolver = _ ∧
    ((s.step (.start request)).step (.index s.tasks.length)).tasks = _
  unfold Resolver.begin
  cases hstart : s.resolver.caches.start request.address with
  | some kept =>
    have hbegun : s.step (.start request) =
        { s with tasks := s.tasks ++ [⟨request, request.proceed kept⟩] } := by
      simp only [step, begin, hstart]
    rw [hbegun]
    exact step_index_behind rfl
  | none =>
    have hbegun : s.step (.start request) =
        { s with tasks := s.tasks ++ [⟨request, .awaitingCode⟩] } := by
      simp only [step, begin, hstart]
    -- The lookup waits for code, so the index that comes is nobody's.
    have hindex : (s.step (.start request)).step (.index s.tasks.length) =
        s.step (.start request) := by
      rw [hbegun]
      simp only [step, getElem?_behind]
    rw [hindex, hbegun]
    exact ⟨rfl, rfl⟩

/-- A lookup that goes on when it has begun does what `Resolver.conclude` does. -/
theorem run_conclude {s : Workload σ} {before after : List Task} {request : Lookup}
    {result : Option LookupResult} (h : s.tasks = before ++ ⟨request, begun result⟩ :: after) :
    (s.run [.code before.length, .index before.length]).resolver =
        (s.resolver.conclude request result).resolver ∧
      (s.run [.code before.length, .index before.length]).tasks =
        before ++ ⟨request, .done (s.resolver.conclude request result).result⟩ :: after := by
  show ((s.step (.code before.length)).step (.index before.length)).resolver = _ ∧
    ((s.step (.code before.length)).step (.index before.length)).tasks = _
  have htask : s.tasks[before.length]? = some ⟨request, begun result⟩ := by
    rw [h, getElem?_behind]
  cases result with
  | some result =>
    have hcode : s.step (.code before.length) = s := by simp only [step, htask, begun]
    have hindex : s.step (.index before.length) = s := by simp only [step, htask, begun]
    rw [hcode, hindex]
    exact ⟨rfl, h⟩
  | none =>
    have hcode : s.step (.code before.length) = s.receiveCode before.length request := by
      simp only [step, htask, begun]
    rw [hcode]
    show _ = (s.resolver.resume request).resolver ∧
      _ = before ++ ⟨request, .done (s.resolver.resume request).result⟩ :: after
    cases hresolution : s.resolver.resolution request.address request.artifacts with
    | error error =>
      obtain ⟨hresult, hresolver⟩ := Resolver.resume_of_error hresolution
      obtain ⟨hfetched, hasked⟩ := Resolver.fetch_of_error hresolution
      simp only [receiveCode, h, set_behind, hfetched, hasked, step, getElem?_behind]
      rw [hresult, hresolver]
      exact ⟨rfl, rfl⟩
    | ok resolved =>
      obtain ⟨hresult, hresolver⟩ := Resolver.resume_of_ok hresolution
      obtain ⟨hfetched, hrecorded⟩ := Resolver.fetch_of_ok hresolution
      simp only [receiveCode, h, set_behind, hfetched, hrecorded]
      rw [hresult, hresolver]
      exact step_index_behind rfl

/-- A lookup that no other overtakes comes to what `Resolver.lookup` makes of it. -/
theorem run_lookup (s : Workload σ) (request : Lookup) :
    (s.run [.start request, .index s.tasks.length, .code s.tasks.length,
        .index s.tasks.length]).resolver = (s.resolver.lookup request).resolver ∧
      (s.run [.start request, .index s.tasks.length, .code s.tasks.length,
        .index s.tasks.length]).tasks =
        s.tasks ++ [⟨request, .done (s.resolver.lookup request).result⟩] := by
  obtain ⟨hbegun, htasks⟩ := run_begin s request
  obtain ⟨hconcluded, hdone⟩ := run_conclude htasks
  rw [hbegun] at hconcluded hdone
  exact ⟨hconcluded, hdone⟩

/-! ## Lookups that run together -/

/-- The moves with which lookups begin one after the other. The first takes the place `id` among the
tasks. -/
def beginMoves (id : Nat) : List Lookup → List Move
  | [] => []
  | request :: requests => .start request :: .index id :: beginMoves (id + 1) requests

/-- The moves with which so many lookups go on one after the other, from the place `id` on. -/
def concludeMoves (id : Nat) : Nat → List Move
  | 0 => []
  | count + 1 => .code id :: .index id :: concludeMoves (id + 1) count

/-- Lookups that begin one after the other do what `Resolver.begin` does for each. -/
theorem run_beginMoves (s : Workload σ) (requests : List Lookup) :
    (s.run (beginMoves s.tasks.length requests)).resolver =
        (s.resolver.forEach Resolver.begin requests).resolver ∧
      (s.run (beginMoves s.tasks.length requests)).tasks =
        s.tasks ++ (requests.zip (s.resolver.forEach Resolver.begin requests).result).map
          fun (request, result) => ⟨request, begun result⟩ := by
  induction requests generalizing s with
  | nil => exact ⟨rfl, (List.append_nil _).symm⟩
  | cons request requests ih =>
    obtain ⟨hresolver, htasks⟩ := run_begin s request
    have hmoves : s.run (beginMoves s.tasks.length (request :: requests)) =
        (s.run [.start request, .index s.tasks.length]).run
          (beginMoves (s.tasks.length + 1) requests) := rfl
    generalize s.run [.start request, .index s.tasks.length] = first at hresolver htasks hmoves
    have hlength : first.tasks.length = s.tasks.length + 1 := by
      rw [htasks, List.length_append, List.length_singleton]
    obtain ⟨hrest, hothers⟩ := ih first
    rw [hlength, hresolver] at hrest hothers
    rw [hmoves, hrest, hothers, htasks, List.append_assoc]
    exact ⟨rfl, rfl⟩

/-- Lookups that go on one after the other do what `Resolver.conclude` does for each. -/
theorem run_concludeMoves {s : Workload σ} {before : List Task}
    {pairs : List (Lookup × Option LookupResult)}
    (h : s.tasks = before ++ pairs.map fun (request, result) => ⟨request, begun result⟩) :
    (s.run (concludeMoves before.length pairs.length)).resolver =
        (s.resolver.forEach (fun resolver (request, result) => resolver.conclude request result)
          pairs).resolver ∧
      (s.run (concludeMoves before.length pairs.length)).tasks =
        before ++ (pairs.zip (s.resolver.forEach (fun resolver (request, result) =>
          resolver.conclude request result) pairs).result).map
            fun ((request, _), result) => ⟨request, .done result⟩ := by
  induction pairs generalizing s before with
  | nil => exact ⟨rfl, h⟩
  | cons pair pairs ih =>
    obtain ⟨request, result⟩ := pair
    obtain ⟨hresolver, htasks⟩ := run_conclude h
    have hmoves : s.run (concludeMoves before.length ((request, result) :: pairs).length) =
        (s.run [.code before.length, .index before.length]).run
          (concludeMoves (before.length + 1) pairs.length) := rfl
    generalize s.run [.code before.length, .index before.length] = first at hresolver htasks hmoves
    rw [List.append_cons] at htasks
    obtain ⟨hrest, hothers⟩ := ih htasks
    rw [List.length_append, List.length_singleton, hresolver] at hrest hothers
    rw [hmoves, hrest, hothers, List.append_assoc]
    exact ⟨rfl, rfl⟩

/-- Lookups of which all begin before the first goes on come to what `Resolver.join` makes of
them. -/
theorem run_join (s : Workload σ) (requests : List Lookup) :
    (s.run (beginMoves s.tasks.length requests ++
        concludeMoves s.tasks.length requests.length)).resolver =
        (s.resolver.join requests).resolver ∧
      (s.run (beginMoves s.tasks.length requests ++
        concludeMoves s.tasks.length requests.length)).tasks =
        s.tasks ++ (requests.zip (s.resolver.join requests).result).map
          fun (request, result) => ⟨request, .done result⟩ := by
  obtain ⟨hresolver, htasks⟩ := run_beginMoves s requests
  obtain ⟨hconcluded, hdone⟩ := run_concludeMoves htasks
  have hlength : (s.resolver.forEach Resolver.begin requests).result.length = requests.length :=
    Resolver.length_forEach _ _ _
  rw [List.length_zip, hlength, Nat.min_self, ← run_append, hresolver] at hconcluded hdone
  refine ⟨hconcluded, hdone.trans ?_⟩
  -- Each lookup is paired with what it has begun with and then with its result.
  have hrequests : (requests.zip (s.resolver.forEach Resolver.begin requests).result).map Prod.fst =
      requests := List.map_fst_zip (Nat.le_of_eq hlength.symm)
  have hpairs : ∀ (pairs : List (Lookup × Option LookupResult)) (results : List LookupResult),
      (pairs.zip results).map (fun ((request, _), result) => Task.mk request (.done result)) =
        ((pairs.map Prod.fst).zip results).map fun (request, result) => ⟨request, .done result⟩ :=
    fun pairs results => by
      rw [List.zip_map_left, List.map_map]
      rfl
  rw [hpairs, hrequests]
  rfl

end CodeAtlas.Workload
