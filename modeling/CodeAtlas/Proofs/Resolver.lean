import CodeAtlas.Proofs.Caches
import CodeAtlas.Resolver

/-!
# What a lookup comes to

`Resolver.lookup` by cases: the source map is kept (`lookup_of_kept`), or the code has to come first
(`lookup_of_none`). Then it resolves to nothing (`resume_of_error`), or to a source map that is
recorded (`resume_of_ok`). What is left to do with a source map is `Resolver.answer`, which touches
no cache.

`Steady` says that a provider answers as fixed functions of its arguments, however often it is asked
and whatever it remembers. Over such a provider the outcome of a lookup on a resolver without caches
is a function of the request (`Steady.lookup_result`).
-/

namespace CodeAtlas

namespace Resolver

/-- Doing something for each item gives as many results. -/
theorem length_forEach {σ α β : Type} (act : Resolver σ → α → Turn σ β) (resolver : Resolver σ)
    (items : List α) : (resolver.forEach act items).result.length = items.length := by
  induction items generalizing resolver with
  | nil => rfl
  | cons item items ih =>
    show (_ :: ((act resolver item).resolver.forEach act items).result).length = _
    rw [List.length_cons, List.length_cons, ih]

variable {σ : Type} [CodeProvider σ]

/-! ## Fetching -/

/-- What the code that the provider replies for an address comes to, whatever is kept. -/
def resolution (resolver : Resolver σ) (address : CodeAddress) (artifacts : ArtifactSet) :
    Except LookupError Resolved :=
  Caches.resolution resolver.isMatch artifacts address
    (CodeProvider.code resolver.provider address).result

/-- The resolver after its provider has been asked for the code at an address. -/
def asked (resolver : Resolver σ) (address : CodeAddress) : Resolver σ :=
  { resolver with provider := (CodeProvider.code resolver.provider address).provider }

/-- The resolver after the code at an address has come and has resolved to a source map. -/
def recorded (resolver : Resolver σ) (address : CodeAddress) (resolved : Resolved) : Resolver σ :=
  { resolver.asked address with caches := (resolver.caches.record address resolved).1 }

/-- Fetching code that resolves to nothing changes nothing but the provider. -/
theorem fetch_of_error {resolver : Resolver σ} {address : CodeAddress} {artifacts : ArtifactSet}
    {error : LookupError} (h : resolver.resolution address artifacts = .error error) :
    (resolver.fetch address artifacts).result = .error error ∧
      (resolver.fetch address artifacts).resolver = resolver.asked address := by
  obtain ⟨hresult, hcaches⟩ := Caches.finish_of_error resolver.caches h
  simp only [fetch, asked]
  exact ⟨hresult, by rw [hcaches]⟩

/-- Fetching code that resolves to a source map records it. -/
theorem fetch_of_ok {resolver : Resolver σ} {address : CodeAddress} {artifacts : ArtifactSet}
    {resolved : Resolved} (h : resolver.resolution address artifacts = .ok resolved) :
    (resolver.fetch address artifacts).result =
        .ok ((resolver.caches.cached address).getD resolved) ∧
      (resolver.fetch address artifacts).resolver = resolver.recorded address resolved := by
  obtain ⟨hresult, hcaches⟩ := Caches.finish_of_ok resolver.caches h
  simp only [fetch, recorded, asked]
  exact ⟨by rw [hresult, Caches.record_snd], by rw [hcaches]⟩

/-- Fetching the code at an address changes what is kept for no other. -/
theorem fetch_alikeBut (resolver : Resolver σ) (address : CodeAddress)
    (artifacts : ArtifactSet) :
    (resolver.fetch address artifacts).resolver.caches.AlikeBut address resolver.caches := by
  cases hresolution : resolver.resolution address artifacts with
  | error error =>
    rw [(fetch_of_error hresolution).2]
    exact .refl _ _
  | ok resolved =>
    rw [(fetch_of_ok hresolution).2]
    exact Caches.record_alikeBut _ _ _

/-! ## Answering -/

/-- Answering a lookup from its source map changes nothing but the provider. -/
theorem answer_resolver (resolver : Resolver σ) (request : Lookup) (resolved : Resolved) :
    (resolver.answer request resolved).resolver =
      { resolver with provider := (resolver.answer request resolved).resolver.provider } := by
  unfold answer
  cases request.query <;> rfl

/-- Answering a lookup keeps the caches. -/
@[simp] theorem answer_caches (resolver : Resolver σ) (request : Lookup) (resolved : Resolved) :
    (resolver.answer request resolved).resolver.caches = resolver.caches := by
  rw [answer_resolver]

/-- Answering a lookup keeps the matcher. -/
@[simp] theorem answer_isMatch (resolver : Resolver σ) (request : Lookup) (resolved : Resolved) :
    (resolver.answer request resolved).resolver.isMatch = resolver.isMatch := by
  rw [answer_resolver]

/-! ## Lookups by cases -/

/-- A lookup whose source map is kept is answered from it. -/
theorem lookup_of_kept {resolver : Resolver σ} {request : Lookup} {kept : Resolved}
    (h : resolver.caches.cached request.address = some kept) :
    (resolver.lookup request).result = (resolver.answer request kept).result ∧
      (resolver.lookup request).resolver = (resolver.answer request kept).resolver := by
  have hstart : resolver.caches.start request.address = some kept := h
  unfold lookup begin
  simp only [hstart]
  exact ⟨rfl, rfl⟩

/-- A lookup fails if the code that comes for it resolves to nothing. -/
theorem resume_of_error {resolver : Resolver σ} {request : Lookup} {error : LookupError}
    (h : resolver.resolution request.address request.artifacts = .error error) :
    (resolver.resume request).result = .error error ∧
      (resolver.resume request).resolver = resolver.asked request.address := by
  obtain ⟨hresult, hresolver⟩ := fetch_of_error h
  unfold resume
  simp only [hresult, hresolver, and_self]

/-- A lookup whose code resolves to a source map records it, and is answered from the one that is
kept then. -/
theorem resume_of_ok {resolver : Resolver σ} {request : Lookup} {resolved : Resolved}
    (h : resolver.resolution request.address request.artifacts = .ok resolved) :
    (resolver.resume request).result =
        ((resolver.recorded request.address resolved).answer request
          ((resolver.caches.cached request.address).getD resolved)).result ∧
      (resolver.resume request).resolver =
        ((resolver.recorded request.address resolved).answer request
          ((resolver.caches.cached request.address).getD resolved)).resolver := by
  obtain ⟨hresult, hresolver⟩ := fetch_of_ok h
  unfold resume
  simp only [hresult, hresolver]
  exact ⟨rfl, rfl⟩

/-- A lookup whose source map is not kept goes on when its code has come. -/
theorem lookup_of_none {resolver : Resolver σ} {request : Lookup}
    (h : resolver.caches.cached request.address = none) :
    (resolver.lookup request).result = (resolver.resume request).result ∧
      (resolver.lookup request).resolver = (resolver.resume request).resolver := by
  have hstart : resolver.caches.start request.address = none := h
  unfold lookup begin
  simp only [hstart]
  exact ⟨rfl, rfl⟩

/-- A lookup changes what is kept for no other address than its own. -/
theorem lookup_alikeBut (resolver : Resolver σ) (request : Lookup) :
    (resolver.lookup request).resolver.caches.AlikeBut request.address resolver.caches := by
  cases hcached : resolver.caches.cached request.address with
  | some kept =>
    rw [(lookup_of_kept hcached).2, answer_caches]
    exact .refl _ _
  | none =>
    rw [(lookup_of_none hcached).2]
    cases hresolution : resolver.resolution request.address request.artifacts with
    | error error =>
      rw [(resume_of_error hresolution).2]
      exact .refl _ _
    | ok resolved =>
      rw [(resume_of_ok hresolution).2, answer_caches]
      exact Caches.record_alikeBut _ _ _

end Resolver

/-! ## Steady providers -/

section Steady

variable {σ : Type} [CodeProvider σ]

/-- What a provider becomes when it is asked questions, any number of them in any order. -/
inductive Asked (provider : σ) : σ → Prop
  /-- No question was asked. -/
  | refl : Asked provider provider
  /-- One more question, for code. -/
  | code {later : σ} (address : CodeAddress) :
    Asked provider later → Asked provider (CodeProvider.code later address).provider
  /-- One more question, for an instruction. -/
  | index {later : σ} (address : CodeAddress) (step : Nat) :
    Asked provider later → Asked provider (CodeProvider.instructionIndex later address step).provider

/-- The provider answers every question as fixed functions of its arguments say, whatever it was
asked before. -/
structure Steady (provider : σ) (code : CodeAddress → Except Failure (List UInt8))
    (index : CodeAddress → Nat → Except Failure Nat) : Prop where
  /-- The answers to questions for code. -/
  code : ∀ later, Asked provider later → ∀ address,
    (CodeProvider.code later address).result = code address
  /-- The answers to questions for instructions. -/
  index : ∀ later, Asked provider later → ∀ address step,
    (CodeProvider.instructionIndex later address step).result = index address step

/-- Answering a lookup asks at most one question more. -/
theorem Asked.answer {provider : σ} {resolver : Resolver σ} (h : Asked provider resolver.provider)
    (request : Lookup) (resolved : Resolved) :
    Asked provider (resolver.answer request resolved).resolver.provider := by
  unfold Resolver.answer
  cases request.query with
  | map => exact h
  | atIndex place => exact h
  | atStep step => exact h.index request.address step

/-- What a lookup finds in its source map when `index` answers the questions for instructions. -/
def Lookup.outcome (request : Lookup) (index : CodeAddress → Nat → Except Failure Nat)
    (resolved : Resolved) : LookupResult :=
  match request.query with
  | .map => .ok (.map resolved)
  | .atIndex place => (resolved.map.lookup place).map .entry
  | .atStep step =>
    match index request.address step with
    | .error failure => .error (.provider failure)
    | .ok place => (resolved.map.lookup place).map .entry

/-- What a lookup comes to when its code resolves as `resolution` says. -/
def Lookup.outcomeOf (request : Lookup) (index : CodeAddress → Nat → Except Failure Nat)
    (resolution : Except LookupError Resolved) : LookupResult :=
  resolution.bind (request.outcome index)

variable {provider : σ} {code : CodeAddress → Except Failure (List UInt8)}
  {index : CodeAddress → Nat → Except Failure Nat}

/-- Over a steady provider a lookup is answered as the functions say. -/
theorem Steady.answer_result (hsteady : Steady provider code index)
    {resolver : Resolver σ} (hasked : Asked provider resolver.provider) (request : Lookup)
    (resolved : Resolved) :
    (resolver.answer request resolved).result = request.outcome index resolved := by
  unfold Resolver.answer Lookup.outcome
  cases request.query with
  | map => rfl
  | atIndex place => rfl
  | atStep step =>
    have hindex := hsteady.index resolver.provider hasked request.address step
    cases hanswer : index request.address step with
    | error failure =>
      rw [hanswer] at hindex
      simp only [hindex, hanswer]
    | ok place =>
      rw [hanswer] at hindex
      simp only [hindex, hanswer]

/-- Over a steady provider the code at an address resolves as the function says. -/
theorem Steady.resolution_eq (hsteady : Steady provider code index)
    {resolver : Resolver σ} (hasked : Asked provider resolver.provider) (address : CodeAddress)
    (artifacts : ArtifactSet) :
    resolver.resolution address artifacts =
      Caches.resolution resolver.isMatch artifacts address (code address) := by
  unfold Resolver.resolution
  rw [hsteady.code _ hasked]

/-- Over a steady provider a lookup whose source map is not kept comes to what the functions make
of its request. -/
theorem Steady.lookup_result (hsteady : Steady provider code index)
    {resolver : Resolver σ} (hasked : Asked provider resolver.provider) (request : Lookup)
    (hmiss : resolver.caches.cached request.address = none) :
    (resolver.lookup request).result = request.outcomeOf index
      (Caches.resolution resolver.isMatch request.artifacts request.address
        (code request.address)) := by
  have heq := hsteady.resolution_eq hasked request.address request.artifacts
  rw [(Resolver.lookup_of_none hmiss).1]
  cases hresolution : resolver.resolution request.address request.artifacts with
  | error error =>
    rw [(Resolver.resume_of_error hresolution).1, ← heq, hresolution]
    rfl
  | ok resolved =>
    have hstill : Asked provider (resolver.recorded request.address resolved).provider :=
      .code request.address hasked
    rw [(Resolver.resume_of_ok hresolution).1, ← heq, hresolution, hmiss, Option.getD_none,
      hsteady.answer_result hstill]
    rfl

/-- Over a steady provider a lookup comes to what it finds in the source map that is kept or, if
none is, in the one that its code resolves to. -/
theorem Steady.lookup_of_map (hsteady : Steady provider code index)
    {resolver : Resolver σ} (hasked : Asked provider resolver.provider) (request : Lookup)
    {m : SourceMap} {found : Resolved}
    (hresolution : Caches.resolution resolver.isMatch request.artifacts request.address
      (code request.address) = .ok found) (hfound : found.map = m)
    (hkept : ∀ kept, resolver.caches.cached request.address = some kept → kept.map = m) :
    ∃ resolved : Resolved, resolved.map = m ∧
      (resolver.lookup request).result = request.outcome index resolved := by
  cases hcached : resolver.caches.cached request.address with
  | some kept =>
    refine ⟨kept, hkept kept hcached, ?_⟩
    rw [(Resolver.lookup_of_kept hcached).1, hsteady.answer_result hasked]
  | none =>
    refine ⟨found, hfound, ?_⟩
    rw [hsteady.lookup_result hasked request hcached, hresolution]
    rfl

end Steady

end CodeAtlas
