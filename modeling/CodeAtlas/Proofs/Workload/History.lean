import CodeAtlas.Proofs.Workload

/-!
# What the caches remember of a run

The caches are a digest of what the lookups have resolved since the last clear (`Workload.found`).
For a deployed address the source map that is kept is the first one in this history, and for any
address the generated sources that are kept are those of the last one (`Remembers`). So an address
with a source map always has generated sources, but the two belong together only as far as the first
and the last lookup have found the same sources (`caches_agree_iff`). They need not, if lookups with
different artifacts overtake each other (`caches_of_race`).
-/

namespace CodeAtlas.Workload

variable {σ : Type}

/-- What the lookups of an address have resolved its code to since the last clear, in order. -/
def foundAt (s : Workload σ) (address : CodeAddress) : List Resolved :=
  (s.found.filter (·.1 = address)).map (·.2)

/-- What one more lookup has found is the last that was found at its address, and at no other. -/
theorem foundAt_concat {s s' : Workload σ} {address : CodeAddress} {resolved : Resolved}
    (h : s'.found = s.found ++ [(address, resolved)]) (other : CodeAddress) :
    s'.foundAt other =
      if other = address then s.foundAt other ++ [resolved] else s.foundAt other := by
  unfold foundAt
  rw [h, List.filter_append, List.map_append]
  by_cases hsame : address = other
  · simp [hsame]
  · simp [hsame, Ne.symm hsame]

/-- The caches hold the first source map that was found for each deployed address, and the generated
sources that were found last for each address. -/
structure Remembers (s : Workload σ) : Prop where
  /-- The source maps. -/
  cached : ∀ account,
    s.caches.cached (.deployed account) = (s.foundAt (.deployed account)).head?
  /-- The generated sources. -/
  generatedFor : ∀ address,
    s.caches.generatedFor address = (s.foundAt address).getLast?.map (·.generated)

/-- A move that neither finds anything nor touches the caches leaves what is remembered. -/
theorem Remembers.congr {s s' : Workload σ} (h : s.Remembers) (hcaches : s'.caches = s.caches)
    (hfound : s'.found = s.found) : s'.Remembers := by
  have hfoundAt : ∀ address, s'.foundAt address = s.foundAt address := fun address => by
    unfold foundAt
    rw [hfound]
  refine ⟨fun account => ?_, fun address => ?_⟩
  · rw [hcaches, hfoundAt, h.cached]
  · rw [hcaches, hfoundAt, h.generatedFor]

/-- Recording what a lookup has found keeps the first source map and the last generated sources. -/
theorem Remembers.record {s s' : Workload σ} (h : s.Remembers) {address : CodeAddress}
    {resolved : Resolved} (hcaches : s'.caches = (s.caches.record address resolved).1)
    (hfound : s'.found = s.found ++ [(address, resolved)]) : s'.Remembers := by
  refine ⟨fun account => ?_, fun other => ?_⟩
  · rw [hcaches, Caches.cached_record, foundAt_concat hfound]
    by_cases hsame : CodeAddress.deployed account = address
    · rw [if_pos ⟨hsame, rfl⟩, if_pos hsame, ← hsame, h.cached, List.head?_append]
      cases (s.foundAt (.deployed account)).head? <;> rfl
    · rw [if_neg (fun hboth => hsame hboth.1), if_neg hsame, h.cached]
  · rw [hcaches, Caches.generatedFor_record, foundAt_concat hfound]
    by_cases hsame : other = address
    · rw [if_pos hsame, if_pos hsame, List.getLast?_concat]
      rfl
    · rw [if_neg hsame, if_neg hsame, h.generatedFor]

/-- The source map of a deployed address is kept if and only if generated sources are recorded for
it. -/
theorem Remembers.isCached_eq {s : Workload σ} (h : s.Remembers) {address : CodeAddress}
    (hdeployed : address.isCreation = false) :
    s.caches.isCached address = (s.caches.generatedFor address).isSome := by
  cases address with
  | creation step => cases hdeployed
  | deployed account =>
    unfold Caches.isCached
    rw [h.cached, h.generatedFor, Option.isSome_map, Bool.eq_iff_iff, List.getLast?_isSome,
      List.isSome_head?]

variable [CodeProvider σ]

/-- Every move keeps the caches a digest of the history. -/
theorem Step.remembers {s s' : Workload σ} {move : Move} (hstep : Step s move s')
    (h : s.Remembers) : s'.Remembers := by
  cases hstep with
  | hit request kept hkept => exact h.congr rfl rfl
  | miss request hnone => exact h.congr rfl rfl
  | fail id request error htask hresolution => exact h.congr rfl rfl
  | resolve id request resolved htask hresolution => exact h.record rfl rfl
  | answer id request resolved htask => exact h.congr (Resolver.answer_caches ..) rfl
  | idle id move hmove => exact h
  | clear => exact ⟨fun account => Caches.cached_empty _, fun address => rfl⟩

/-- In a reachable workload the caches are a digest of the history. -/
theorem Reachable.remembers {s : Workload σ} (hs : s.Reachable) : s.Remembers :=
  hs.induction (fun _ _ => ⟨fun _ => Caches.cached_empty _, fun _ => rfl⟩)
    (fun _ _ _ hstep h => hstep.remembers h)

/-- Whatever the provider answers and in whatever order the lookups go on, an address whose source
map is kept has generated sources. They are the ones that belong to this source map if and only if
the first and the last of the lookups that have fetched its code since the last clear have found the
same generated sources. -/
theorem caches_agree_iff {s : Workload σ} (hs : s.Reachable) (account : Address) :
    (∀ kept, s.caches.cached (.deployed account) = some kept →
      (s.caches.generatedFor (.deployed account)).isSome) ∧
    ((∀ kept, s.caches.cached (.deployed account) = some kept →
      s.caches.generatedFor (.deployed account) = some kept.generated) ↔
      (s.foundAt (.deployed account)).head?.map (·.generated) =
        (s.foundAt (.deployed account)).getLast?.map (·.generated)) := by
  rw [hs.remembers.cached, hs.remembers.generatedFor]
  cases hfound : s.foundAt (.deployed account) with
  | nil => simp
  | cons first rest =>
    obtain ⟨last, hlast⟩ : ∃ last, (first :: rest).getLast? = some last :=
      ⟨_, List.getLast?_eq_some_getLast (List.cons_ne_nil first rest)⟩
    rw [hlast]
    constructor
    · exact fun kept hkept => rfl
    · simp only [List.head?_cons, Option.some.injEq, forall_eq', Option.map_some]
      exact eq_comm

/-- When everything is forgotten between the answers to two lookups that race, the caches agree. -/
theorem caches_agree_of_cleared_race :
    (race.run [.code 0, .clear, .code 1]).caches.generatedFor (.deployed .sample) =
      some (raceResolved 1).generated := by
  have hreachable : race.Reachable := ⟨raceTrace, MatchPolicy.exact.accepts, _, rfl⟩
  exact (caches_agree_iff (hreachable.run [.code 0, .clear, .code 1]) .sample).2.mpr rfl
    (raceResolved 1) rfl

/-- When the lookups that race get the code of the account one after the other, the caches keep the
source map of the first with the generated sources of the second, although the code is the same. -/
theorem caches_of_race :
    Steady raceTrace raceTrace.codeReply raceTrace.indexReply ∧
      (race.run [.code 0, .code 1]).Reachable ∧
      (race.run [.code 0, .code 1]).caches.cached (.deployed .sample) =
        some (raceResolved 0) ∧
      (race.run [.code 0, .code 1]).caches.generatedFor (.deployed .sample) =
        some (raceResolved 1).generated ∧
      (raceResolved 1).generated ≠ (raceResolved 0).generated := by
  have hcoherent : raceTrace.Coherent := RecordedTrace.coherent_empty.insertCode _ _
  have hreachable : race.Reachable := ⟨raceTrace, MatchPolicy.exact.accepts, _, rfl⟩
  refine ⟨hcoherent.steady_replies, hreachable.run _, rfl, rfl, fun hsame => ?_⟩
  simp [raceResolved, raceSources] at hsame

end CodeAtlas.Workload
