import CodeAtlas.Proofs.Workload

/-!
# The first source map of an address stays

Lookups of one deployed address that run together may all miss the cache, and each may resolve the
code it gets to a source map of its own: the artifacts they look among can differ, and so can the
code. The first to be recorded wins (`first_writer_wins`): as long as nothing is forgotten it stays,
and every lookup that comes to its end returns it.

The step lemma `Step.keeps` says that a move other than a clear changes no source map that is kept,
and `Step.returned` that a lookup returns what is kept when it does.
-/

namespace CodeAtlas.Workload

variable {σ : Type} [CodeProvider σ]

/-- A move that forgets nothing changes no source map that is kept. -/
theorem Step.keeps {s s' : Workload σ} {move : Move} (hstep : Step s move s')
    (hclear : move ≠ .clear) {address : CodeAddress} {kept : Resolved}
    (h : s.caches.cached address = some kept) : s'.caches.cached address = some kept := by
  cases hstep with
  | hit request other hkept => exact h
  | miss request hnone => exact h
  | fail id request error htask hresolution => exact h
  | resolve id request resolved htask hresolution =>
    show (s.caches.record request.address resolved).1.cached address = some kept
    rw [Caches.cached_record]
    split
    · rename_i hsame
      rw [← hsame.1, h, Option.getD_some]
    · exact h
  | answer id request resolved htask =>
    show (s.resolver.answer request resolved).resolver.caches.cached address = some kept
    rw [Resolver.answer_caches]
    exact h
  | idle id move hmove => exact h
  | clear => exact absurd rfl hclear

/-- The lookup at a place has returned a source map of a deployed address. -/
def Returned (s : Workload σ) (id : Nat) (account : Address) (resolved : Resolved) : Prop :=
  ∃ artifacts,
    s.tasks[id]? = some ⟨⟨.deployed account, artifacts, .map⟩, .done (.ok (.map resolved))⟩

/-- A lookup that has returned a source map has returned it for good. -/
theorem Returned.run {s : Workload σ} {id : Nat} {account : Address} {resolved : Resolved}
    (h : s.Returned id account resolved) (moves : List Move) :
    (s.run moves).Returned id account resolved := by
  obtain ⟨artifacts, htask⟩ := h
  obtain ⟨stage, hreached, hkeep⟩ := continues_run s moves htask
  rw [hkeep _ rfl] at hreached
  exact ⟨artifacts, hreached⟩

/-- A lookup that returns a source map of a deployed address returns the one that is kept. -/
theorem Step.returned {s s' : Workload σ} {move : Move} (hstep : Step s move s')
    (hwait : s.StepsWait) {id : Nat} {account : Address} {resolved : Resolved}
    (h : s'.Returned id account resolved) :
    s.Returned id account resolved ∨ s'.caches.cached (.deployed account) = some resolved := by
  obtain ⟨artifacts, htask⟩ := h
  cases hstep.origin htask with
  | same hbefore => exact .inl ⟨artifacts, hbefore⟩
  | hit kept hmove hkept hstage =>
    cases hstage
    exact .inr hkept
  | miss hmove hstage => cases hstage
  | fail error hbefore hresolution hstage => cases hstage
  | resolve own hbefore hresolution hresolver hstage =>
    cases hstage
    right
    show s'.resolver.caches.cached (.deployed account) = _
    rw [hresolver]
    show (s.caches.record (.deployed account) own).1.cached (.deployed account) = _
    rw [Caches.cached_record, if_pos ⟨rfl, rfl⟩]
  | answer own hbefore hstage =>
    -- A lookup for a source map does not wait for an index.
    obtain ⟨step, hquery⟩ := hwait id _ own hbefore
    cases hquery

/-- The first source map that is recorded for a deployed address stays as long as nothing is
forgotten, and every lookup of the address that ends meanwhile with a source map returns this one,
whatever it has resolved itself: in a stretch of a run without a clear,

* a source map that is kept is never changed or taken away;
* a lookup that returns a source map in the stretch returns the one that is kept;
* so all of them return the same source map with the same generated sources. -/
theorem first_writer_wins {s : Workload σ} (hs : s.Reachable) {moves : List Move}
    (hclear : Move.clear ∉ moves) (account : Address) :
    (∀ kept, s.caches.cached (.deployed account) = some kept →
      (s.run moves).caches.cached (.deployed account) = some kept) ∧
    (∀ id resolved, (s.run moves).Returned id account resolved →
      ¬ s.Returned id account resolved →
      (s.run moves).caches.cached (.deployed account) = some resolved) ∧
    ∀ id id' resolved resolved', (s.run moves).Returned id account resolved →
      ¬ s.Returned id account resolved → (s.run moves).Returned id' account resolved' →
      ¬ s.Returned id' account resolved' → resolved = resolved' := by
  have hmove : ∀ move ∈ moves, move ≠ .clear := fun move hmem hsame => hclear (hsame ▸ hmem)
  have hkeeps : ∀ kept, s.caches.cached (.deployed account) = some kept →
      (s.run moves).caches.cached (.deployed account) = some kept := fun kept hkept =>
    run_induction (P := fun s => s.caches.cached (.deployed account) = some kept)
      (fun _ _ move hmem hstep hs => hstep.keeps (hmove move hmem) hs) hkept
  -- What was returned so far was returned before the stretch or is kept now.
  have hreturned : (s.run moves).StepsWait ∧ ∀ id resolved,
      (s.run moves).Returned id account resolved → s.Returned id account resolved ∨
        (s.run moves).caches.cached (.deployed account) = some resolved := by
    refine run_induction (P := fun s' => s'.StepsWait ∧ ∀ id resolved,
      s'.Returned id account resolved → s.Returned id account resolved ∨
        s'.caches.cached (.deployed account) = some resolved) ?_ ⟨hs.stepsWait, ?_⟩
    · rintro t t' move hmem hstep ⟨hwait, hbefore⟩
      refine ⟨hstep.stepsWait hwait, fun id resolved h => ?_⟩
      rcases hstep.returned hwait h with hearlier | hnow
      · exact (hbefore id resolved hearlier).imp_right (hstep.keeps (hmove move hmem))
      · exact .inr hnow
    · exact fun id resolved h => .inl h
  have hcached : ∀ id resolved, (s.run moves).Returned id account resolved →
      ¬ s.Returned id account resolved →
      (s.run moves).caches.cached (.deployed account) = some resolved := fun id resolved h hnot =>
    (hreturned.2 id resolved h).resolve_left hnot
  refine ⟨hkeeps, hcached, fun id id' resolved resolved' h hnot h' hnot' => ?_⟩
  have hfirst := hcached id resolved h hnot
  rw [hcached id' resolved' h' hnot'] at hfirst
  exact (Option.some.inj hfirst).symm

/-- When the second of two lookups that race gets its code first, the first returns what the second
has found. -/
theorem first_writer_wins_race :
    (race.run [.code 1, .code 0]).caches.cached (.deployed .sample) = some (raceResolved 1) ∧
      (race.run [.code 1, .code 0]).Returned 0 .sample (raceResolved 1) ∧
      ∀ id resolved, (race.run [.code 1, .code 0]).Returned id .sample resolved →
        resolved = raceResolved 1 := by
  have hreachable : race.Reachable := ⟨raceTrace, MatchPolicy.exact.accepts, _, rfl⟩
  have hclear : Move.clear ∉ [Move.code 1, Move.code 0] := by simp
  obtain ⟨-, hcached, hsame⟩ := first_writer_wins hreachable hclear .sample
  -- No lookup has returned before the code came.
  have hwaiting : ∀ id resolved, ¬ race.Returned id .sample resolved := by
    rintro id resolved ⟨artifacts, htask⟩
    match id with
    | 0 => cases htask
    | 1 => cases htask
    | id + 2 => cases htask
  have hsecond : (race.run [.code 1, .code 0]).Returned 1 .sample (raceResolved 1) := ⟨_, rfl⟩
  exact ⟨hcached 1 _ hsecond (hwaiting 1 _), ⟨_, rfl⟩, fun id resolved hreturned =>
    hsame id 1 resolved _ hreturned (hwaiting id resolved) hsecond (hwaiting 1 _)⟩

end CodeAtlas.Workload
