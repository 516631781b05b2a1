import CodeAtlas.Caches

/-!
# What the caches keep

The effect of each step of a lookup on what is kept, said through the two views of the caches: the
source map that is kept for a code address (`Caches.cached`) and the generated sources
(`Caches.generatedFor`). Nothing outside this file unfolds `Caches.record` or `Caches.finish`.

`Caches.record` keeps the first source map of a deployed address and the last generated sources of
any address. `Caches.finish` records what the code that came resolves to (`Caches.resolution`) and
leaves the caches alone when that is an error.
-/

namespace CodeAtlas

namespace Caches

/-! ## Views -/

/-- The source map kept for a deployed address is the one in the table. -/
@[simp] theorem cached_deployed (caches : Caches) (account : Address) :
    caches.cached (.deployed account) = caches.sourceMaps.get? account := rfl

/-- No source map is kept for a creation. -/
@[simp] theorem cached_creation (caches : Caches) (step : UInt64) :
    caches.cached (.creation step) = none := rfl

/-- Nothing is kept at first. -/
@[simp] theorem cached_empty (address : CodeAddress) : empty.cached address = none := by
  cases address <;> rfl

/-! ## Recording -/

/-- Recording for a creation keeps its generated sources alone. -/
theorem record_creation (caches : Caches) (step : UInt64) (resolved : Resolved) :
    caches.record (.creation step) resolved =
      (⟨caches.sourceMaps, caches.generated.insert (.creation step) resolved.generated⟩,
        resolved) := rfl

/-- Recording for a deployed address that has a source map keeps that source map. -/
theorem record_of_kept {caches : Caches} {account : Address} {kept : Resolved}
    (h : caches.sourceMaps.get? account = some kept) (resolved : Resolved) :
    caches.record (.deployed account) resolved =
      (⟨caches.sourceMaps, caches.generated.insert (.deployed account) resolved.generated⟩,
        kept) := by
  simp only [record, h]

/-- Recording for a deployed address that has no source map keeps the new one. -/
theorem record_of_none {caches : Caches} {account : Address}
    (h : caches.sourceMaps.get? account = none) (resolved : Resolved) :
    caches.record (.deployed account) resolved =
      (⟨caches.sourceMaps.insert account resolved,
        caches.generated.insert (.deployed account) resolved.generated⟩, resolved) := by
  simp only [record, h]

/-- A lookup goes on with the source map that is kept, and with its own if none is. -/
theorem record_snd (caches : Caches) (address : CodeAddress) (resolved : Resolved) :
    (caches.record address resolved).2 = (caches.cached address).getD resolved := by
  cases address with
  | creation step => rfl
  | deployed account =>
    rw [cached_deployed]
    cases hkept : caches.sourceMaps.get? account with
    | none => rw [record_of_none hkept]; rfl
    | some kept => rw [record_of_kept hkept]; rfl

/-- Recording keeps a source map for the address if it is deployed and has none, and changes no
other. -/
theorem cached_record (caches : Caches) (address other : CodeAddress) (resolved : Resolved) :
    (caches.record address resolved).1.cached other =
      if other = address ∧ other.isCreation = false then some ((caches.cached address).getD resolved)
      else caches.cached other := by
  cases other with
  | creation step => simp [CodeAddress.isCreation]
  | deployed account =>
    cases address with
    | creation step => rw [record_creation]; simp
    | deployed recorded =>
      simp only [cached_deployed, CodeAddress.isCreation, CodeAddress.deployed.injEq, and_true]
      cases hkept : caches.sourceMaps.get? recorded with
      | none => rw [record_of_none hkept, Table.get?_insert]; rfl
      | some kept =>
        rw [record_of_kept hkept]
        by_cases hsame : account = recorded
        · rw [if_pos hsame, hsame, hkept]; rfl
        · rw [if_neg hsame]

/-- Recording sets the generated sources of the address and of no other. -/
theorem generatedFor_record (caches : Caches) (address other : CodeAddress) (resolved : Resolved) :
    (caches.record address resolved).1.generatedFor other =
      if other = address then some resolved.generated else caches.generatedFor other := by
  have hinsert := Table.get?_insert caches.generated address other resolved.generated
  cases address with
  | creation step => exact hinsert
  | deployed account =>
    cases hkept : caches.sourceMaps.get? account with
    | none => rw [record_of_none hkept]; exact hinsert
    | some kept => rw [record_of_kept hkept]; exact hinsert

/-- The caches keep the same for every address but one. -/
def AlikeBut (caches : Caches) (address : CodeAddress) (other : Caches) : Prop :=
  ∀ place, place ≠ address → caches.cached place = other.cached place ∧
    caches.generatedFor place = other.generatedFor place

/-- Caches keep the same as themselves. -/
theorem AlikeBut.refl (caches : Caches) (address : CodeAddress) :
    caches.AlikeBut address caches := fun _ _ => ⟨rfl, rfl⟩

/-- Recording for an address changes what is kept for no other. -/
theorem record_alikeBut (caches : Caches) (address : CodeAddress) (resolved : Resolved) :
    (caches.record address resolved).1.AlikeBut address caches := by
  intro place h
  have hnot : ¬(place = address ∧ place.isCreation = false) := fun hboth => h hboth.1
  rw [cached_record, if_neg hnot, generatedFor_record, if_neg h]
  exact ⟨rfl, rfl⟩

/-! ## Finishing -/

/-- What the answer to a question for code comes to, whatever is kept: the source map of the
artifact it matches, or why there is none. -/
def resolution (isMatch : Matcher) (artifacts : ArtifactSet) (address : CodeAddress)
    (answer : Except Failure (List UInt8)) : Except LookupError Resolved :=
  match answer with
  | .error failure => .error (.provider failure)
  | .ok code => (artifacts.search isMatch address code).resolve address

/-- A lookup whose code resolves to nothing fails with that error and leaves the caches alone. -/
theorem finish_of_error {isMatch : Matcher} {artifacts : ArtifactSet} {address : CodeAddress}
    {answer : Except Failure (List UInt8)} {error : LookupError} (caches : Caches)
    (h : resolution isMatch artifacts address answer = .error error) :
    (caches.finish isMatch artifacts address answer).result = .error error ∧
      (caches.finish isMatch artifacts address answer).caches = caches := by
  unfold resolution at h
  unfold finish
  cases answer with
  | error failure =>
    cases h
    exact ⟨rfl, rfl⟩
  | ok code =>
    simp only at h ⊢
    rw [h]
    exact ⟨rfl, rfl⟩

/-- A lookup whose code resolves to a source map records it. -/
theorem finish_of_ok {isMatch : Matcher} {artifacts : ArtifactSet} {address : CodeAddress}
    {answer : Except Failure (List UInt8)} {resolved : Resolved} (caches : Caches)
    (h : resolution isMatch artifacts address answer = .ok resolved) :
    (caches.finish isMatch artifacts address answer).result =
        .ok (caches.record address resolved).2 ∧
      (caches.finish isMatch artifacts address answer).caches =
        (caches.record address resolved).1 := by
  unfold resolution at h
  unfold finish
  cases answer with
  | error failure => cases h
  | ok code =>
    simp only at h ⊢
    rw [h]
    exact ⟨rfl, rfl⟩

end Caches

end CodeAtlas
