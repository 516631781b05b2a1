import CodeAtlas.Policy
import CodeAtlas.Proofs.Resolver
import CodeAtlas.Trace

/-!
# Questions for code

How often a lookup asks for code cannot be read off what it comes to. `Metered` wraps a provider and
notes every address for which it is asked for code. That does not show otherwise: a resolver over a
metered provider does what the resolver over the provider itself does (`Resolver.lookup_bare`).

A lookup asks once if the source map of its address is not kept, and not at all if it is
(`Resolver.fetches_lookup`).
-/

namespace CodeAtlas

/-- A provider that notes for which addresses it is asked for code. -/
structure Metered (σ : Type) where
  /-- What answers. -/
  inner : σ
  /-- The addresses for which code was asked, in order. -/
  fetches : List CodeAddress := []

variable {σ : Type} [CodeProvider σ]

instance : CodeProvider (Metered σ) where
  code provider address :=
    let reply := CodeProvider.code provider.inner address
    ⟨reply.result, ⟨reply.provider, provider.fetches ++ [address]⟩, reply.records⟩
  instructionIndex provider address step :=
    let reply := CodeProvider.instructionIndex provider.inner address step
    ⟨reply.result, { provider with inner := reply.provider }, reply.records⟩

/-! ## Noting does not show -/

omit [CodeProvider σ] in
/-- The resolver over the provider that is metered. -/
def Resolver.bare (resolver : Resolver (Metered σ)) : Resolver σ :=
  ⟨resolver.provider.inner, resolver.isMatch, resolver.caches⟩

omit [CodeProvider σ] in
/-- What a resolver has done, as the resolver over the provider that is metered does it. -/
def Turn.bare {α : Type} (turn : Turn (Metered σ) α) : Turn σ α :=
  ⟨turn.result, turn.resolver.bare, turn.records⟩

namespace Resolver

/-- Fetching code does the same without the notes. -/
theorem fetch_bare (resolver : Resolver (Metered σ)) (address : CodeAddress)
    (artifacts : ArtifactSet) :
    resolver.bare.fetch address artifacts = (resolver.fetch address artifacts).bare := rfl

/-- Answering a lookup does the same without the notes. -/
theorem answer_bare (resolver : Resolver (Metered σ)) (request : Lookup) (resolved : Resolved) :
    resolver.bare.answer request resolved = (resolver.answer request resolved).bare := by
  unfold answer
  cases request.query <;> rfl

/-- Going on with a lookup that needs code does the same without the notes. -/
theorem resume_bare (resolver : Resolver (Metered σ)) (request : Lookup) :
    resolver.bare.resume request = (resolver.resume request).bare := by
  unfold resume
  rw [fetch_bare]
  generalize resolver.fetch request.address request.artifacts = fetched
  obtain ⟨result, later, records⟩ := fetched
  cases result with
  | error error => rfl
  | ok resolved =>
    show (later.bare.answer request resolved).behind records = _
    rw [answer_bare]
    rfl

/-- A lookup does the same without the notes. -/
theorem lookup_bare (resolver : Resolver (Metered σ)) (request : Lookup) :
    resolver.bare.lookup request = (resolver.lookup request).bare := by
  unfold lookup begin
  cases hstart : resolver.caches.start request.address with
  | none =>
    have hbare : resolver.bare.caches.start request.address = none := hstart
    simp only [hbare, conclude, resume_bare]
    rfl
  | some kept =>
    have hbare : resolver.bare.caches.start request.address = some kept := hstart
    simp only [hbare, conclude, answer_bare]
    rfl

/-! ## Who asks -/

/-- Answering a lookup from its source map asks for no code. -/
@[simp] theorem fetches_answer (resolver : Resolver (Metered σ)) (request : Lookup)
    (resolved : Resolved) :
    (resolver.answer request resolved).resolver.provider.fetches = resolver.provider.fetches := by
  unfold answer
  cases request.query <;> rfl

/-- A lookup that goes on when its source map is not kept asks for the code at its address, once. -/
theorem fetches_resume (resolver : Resolver (Metered σ)) (request : Lookup) :
    (resolver.resume request).resolver.provider.fetches =
      resolver.provider.fetches ++ [request.address] := by
  cases hresolution : resolver.resolution request.address request.artifacts with
  | error error =>
    rw [(resume_of_error hresolution).2]
    rfl
  | ok resolved =>
    rw [(resume_of_ok hresolution).2, fetches_answer]
    rfl

/-- A lookup asks for code once if the source map of its address is not kept, and not at all if it
is. -/
theorem fetches_lookup (resolver : Resolver (Metered σ)) (request : Lookup) :
    (resolver.lookup request).resolver.provider.fetches = resolver.provider.fetches ++
      if (resolver.caches.cached request.address).isSome then [] else [request.address] := by
  cases hcached : resolver.caches.cached request.address with
  | some kept => simp [(lookup_of_kept hcached).2]
  | none => simp [(lookup_of_none hcached).2, fetches_resume]

/-- A new resolver over a recorded trace that notes questions for code and compares codes byte by
byte. -/
def overTrace (trace : RecordedTrace) : Resolver (Metered RecordedTrace) :=
  { provider := { inner := trace }, isMatch := MatchPolicy.exact.accepts }

end Resolver

end CodeAtlas
