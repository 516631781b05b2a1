import CodeAtlas.Proofs.Metered

/-!
# Lookups one after the other

In `Resolver.forEach Resolver.lookup` each lookup has come to its end before the next begins. What a
lookup does for those behind it is what it leaves in the caches: a deployed address has a source map
from then on if the request for one succeeds (`Resolver.cached_lookup`), and keeps it
(`Resolver.cached_forEach`).

So the code of a deployed address is asked for by every lookup of it up to the first whose request
succeeds, and by none behind that (`Resolver.count_fetches_forEach`). All of those come to the same
source map, whatever code there is by then (`Resolver.lookup_behind`).
-/

namespace CodeAtlas.Resolver

variable {σ : Type} [CodeProvider σ]

/-! ## Requests for source maps -/

/-- What a request for the source map of an address comes to: the one that is kept or, if none is,
what the code resolves to. -/
def sourceMap (resolver : Resolver σ) (address : CodeAddress) (artifacts : ArtifactSet) :
    Except LookupError Resolved :=
  match resolver.caches.cached address with
  | some kept => .ok kept
  | none => resolver.resolution address artifacts

/-- A lookup of a source map that is kept finds it and changes nothing. -/
theorem lookup_map_of_kept {resolver : Resolver σ} {address : CodeAddress} {kept : Resolved}
    (h : resolver.caches.cached address = some kept) (artifacts : ArtifactSet) :
    (resolver.lookup ⟨address, artifacts, .map⟩).result = .ok (.map kept) ∧
      (resolver.lookup ⟨address, artifacts, .map⟩).resolver = resolver := by
  have hkept : resolver.caches.cached (Lookup.mk address artifacts .map).address = some kept := h
  exact lookup_of_kept hkept

/-- A lookup of a source map comes to what the request for it comes to. -/
theorem result_lookup_map (resolver : Resolver σ) (address : CodeAddress)
    (artifacts : ArtifactSet) :
    (resolver.lookup ⟨address, artifacts, .map⟩).result =
      (resolver.sourceMap address artifacts).map .map := by
  unfold sourceMap
  cases hcached : resolver.caches.cached address with
  | some kept => exact (lookup_map_of_kept hcached artifacts).1
  | none =>
    have hnone : resolver.caches.cached (Lookup.mk address artifacts .map).address = none := hcached
    rw [(lookup_of_none hnone).1]
    cases hresolution : resolver.resolution address artifacts with
    | error error => exact (resume_of_error hresolution).1
    | ok resolved =>
      rw [(resume_of_ok hresolution).1]
      show Except.ok (Found.map ((resolver.caches.cached address).getD resolved)) = _
      rw [hcached]
      rfl

/-- Behind a lookup of a deployed address its source map is kept if the request for it has
succeeded. Other source maps are kept as before. -/
theorem cached_lookup (resolver : Resolver σ) (request : Lookup) (account : Address) :
    (resolver.lookup request).resolver.caches.cached (.deployed account) =
      if request.address = .deployed account then
        (resolver.sourceMap request.address request.artifacts).toOption
      else resolver.caches.cached (.deployed account) := by
  by_cases hsame : request.address = .deployed account
  · rw [if_pos hsame, ← hsame]
    unfold sourceMap
    cases hcached : resolver.caches.cached request.address with
    | some kept =>
      rw [(lookup_of_kept hcached).2, answer_caches, hcached]
      rfl
    | none =>
      rw [(lookup_of_none hcached).2]
      cases hresolution : resolver.resolution request.address request.artifacts with
      | error error =>
        rw [(resume_of_error hresolution).2]
        exact hcached
      | ok resolved =>
        have hdeployed : request.address.isCreation = false := by rw [hsame]; rfl
        rw [(resume_of_ok hresolution).2, answer_caches]
        show (resolver.caches.record request.address resolved).1.cached request.address = _
        rw [Caches.cached_record, if_pos ⟨rfl, hdeployed⟩, hcached]
        rfl
  · rw [if_neg hsame]
    exact (resolver.lookup_alikeBut request _ (Ne.symm hsame)).1

/-! ## Sequences -/

omit [CodeProvider σ] in
/-- Doing something for the items of two lists is doing it for those of the first and then for those
of the second. -/
theorem forEach_append {α β : Type} (act : Resolver σ → α → Turn σ β) (resolver : Resolver σ)
    (first second : List α) :
    (resolver.forEach act (first ++ second)).resolver =
      ((resolver.forEach act first).resolver.forEach act second).resolver := by
  induction first generalizing resolver with
  | nil => rfl
  | cons item first ih => exact ih (act resolver item).resolver

/-- A source map that is kept for a deployed address is kept behind any lookups. -/
theorem cached_forEach {resolver : Resolver σ} {account : Address} {kept : Resolved}
    (h : resolver.caches.cached (.deployed account) = some kept) (requests : List Lookup) :
    (resolver.forEach lookup requests).resolver.caches.cached (.deployed account) = some kept := by
  induction requests generalizing resolver with
  | nil => exact h
  | cons request requests ih =>
    refine ih ?_
    rw [cached_lookup]
    split
    · rename_i hsame
      rw [hsame, sourceMap, h]
      rfl
    · exact h

omit [CodeProvider σ] in
/-- A resolver over another provider that keeps the same. -/
def withProvider {τ : Type} (resolver : Resolver σ) (provider : τ) : Resolver τ :=
  ⟨provider, resolver.isMatch, resolver.caches⟩

/-- If a request for the source map of a deployed address has succeeded, every lookup of the source
map behind it finds the same one and changes nothing, with whatever artifacts and over whatever
provider. -/
theorem lookup_behind {resolver : Resolver σ} {before after : List Lookup} {request : Lookup}
    {account : Address} {resolved : Resolved} (haddress : request.address = .deployed account)
    (hresolved : ((resolver.forEach lookup before).resolver.lookup
      ⟨request.address, request.artifacts, .map⟩).result = .ok (.map resolved))
    {τ : Type} [CodeProvider τ] (provider : τ) (artifacts : ArtifactSet) :
    let later :=
      (resolver.forEach lookup (before ++ request :: after)).resolver.withProvider provider
    (later.lookup ⟨.deployed account, artifacts, .map⟩).result = .ok (.map resolved) ∧
      (later.lookup ⟨.deployed account, artifacts, .map⟩).resolver = later := by
  intro later
  rw [result_lookup_map] at hresolved
  cases hsource : (resolver.forEach lookup before).resolver.sourceMap request.address
      request.artifacts with
  | error error =>
    rw [hsource] at hresolved
    cases hresolved
  | ok found =>
    rw [hsource] at hresolved
    cases hresolved
    have hfirst : ((resolver.forEach lookup before).resolver.lookup request).resolver.caches.cached
        (.deployed account) = some resolved := by
      rw [cached_lookup, if_pos haddress, hsource]
      rfl
    have hkept : later.caches.cached (.deployed account) = some resolved := by
      show (resolver.forEach lookup (before ++ request :: after)).resolver.caches.cached
        (.deployed account) = some resolved
      rw [forEach_append]
      exact cached_forEach hfirst after
    exact lookup_map_of_kept hkept artifacts

/-! ## Counting questions for code -/

/-- Whether the request of a lookup for its source map succeeds. -/
def resolves (resolver : Resolver σ) (request : Lookup) : Bool :=
  (resolver.lookup ⟨request.address, request.artifacts, .map⟩).result.isOk

/-- Whether the requests for the source map of an address succeed, one after the other, in a
sequence of lookups. -/
def tries (address : CodeAddress) (resolver : Resolver σ) : List Lookup → List Bool
  | [] => []
  | request :: requests =>
    let others := tries address (resolver.lookup request).resolver requests
    if request.address = address then resolver.resolves request :: others else others

/-- A lookup asks for the code of an address if it is a lookup of it and no source map is kept. -/
theorem count_fetches_lookup (resolver : Resolver (Metered σ)) (request : Lookup)
    (address : CodeAddress) :
    (resolver.lookup request).resolver.provider.fetches.count address =
      resolver.provider.fetches.count address +
        if request.address = address ∧ resolver.caches.cached address = none then 1 else 0 := by
  rw [fetches_lookup, List.count_append]
  congr 1
  by_cases hsame : request.address = address
  · subst hsame
    cases hcached : resolver.caches.cached request.address <;> simp
  · have hnot : ¬(request.address = address ∧ resolver.caches.cached address = none) :=
      fun hboth => hsame hboth.1
    rw [if_neg hnot]
    split
    · rfl
    · exact List.count_eq_zero.mpr fun hmem => hsame (List.mem_singleton.mp hmem).symm

/-- Nobody asks for the code of a deployed address whose source map is kept. -/
theorem count_fetches_of_kept {resolver : Resolver (Metered σ)} {account : Address}
    {kept : Resolved} (h : resolver.caches.cached (.deployed account) = some kept)
    (requests : List Lookup) :
    (resolver.forEach lookup requests).resolver.provider.fetches.count (.deployed account) =
      resolver.provider.fetches.count (.deployed account) := by
  induction requests generalizing resolver with
  | nil => rfl
  | cons request requests ih =>
    have hstill := ih (cached_forEach h [request])
    have hhead := resolver.count_fetches_lookup request (.deployed account)
    rw [h, if_neg fun hboth => by cases hboth.2] at hhead
    exact hstill.trans hhead

/-- The lookups that ask for the code of a deployed address are those up to the first whose request
for its source map succeeds. -/
theorem count_fetches_forEach {resolver : Resolver (Metered σ)} {account : Address}
    (h : resolver.caches.cached (.deployed account) = none) (requests : List Lookup) :
    (resolver.forEach lookup requests).resolver.provider.fetches.count (.deployed account) =
      resolver.provider.fetches.count (.deployed account) +
        ((tries (.deployed account) resolver requests).take
          ((tries (.deployed account) resolver requests).idxOf true + 1)).length := by
  induction requests generalizing resolver with
  | nil => rfl
  | cons request requests ih =>
    have hhead := resolver.count_fetches_lookup request (.deployed account)
    have hcached := resolver.cached_lookup request account
    show ((resolver.lookup request).resolver.forEach lookup
      requests).resolver.provider.fetches.count (.deployed account) = _
    unfold tries
    by_cases hsame : request.address = .deployed account
    · rw [if_pos ⟨hsame, h⟩] at hhead
      rw [if_pos hsame] at hcached ⊢
      have hresolves : resolver.resolves request =
          (resolver.sourceMap request.address request.artifacts).isOk := by
        rw [resolves, result_lookup_map]
        cases resolver.sourceMap request.address request.artifacts <;> rfl
      rw [hresolves]
      cases hsource : resolver.sourceMap request.address request.artifacts with
      | ok resolved =>
        -- Behind the first success the source map is kept.
        rw [hsource] at hcached
        rw [count_fetches_of_kept hcached, hhead]
        rfl
      | error error =>
        -- A failure keeps nothing, so the lookups behind it are as many tries as from the start.
        rw [hsource] at hcached
        rw [ih hcached, hhead]
        simp only [Except.isOk, Except.toBool, List.idxOf_cons, List.take_succ_cons,
          List.length_cons]
        show _ = _ + (List.length (List.take (List.idxOf true _ + 1) _) + 1)
        omega
    · rw [if_neg fun hboth => hsame hboth.1] at hhead
      rw [if_neg hsame] at hcached ⊢
      rw [ih (hcached.trans h), hhead, Nat.add_zero]

end CodeAtlas.Resolver
