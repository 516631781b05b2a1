import CodeAtlas.Caches
import CodeAtlas.Provider

/-!
# Resolvers

A resolver answers lookups over a provider of code and the caches of what was found so far. A lookup
asks for the source map of an address, for the entry of one of its instructions, or for the entry of
the instruction that ran at a step of the trace. The step is turned into an instruction only
when the source map is there.

`Resolver.begin` runs a lookup until it needs code, and `Resolver.resume` from there to its end. A
single lookup does one after the other (`Resolver.lookup`). Lookups that run together all begin
before the first of them is resumed (`Resolver.join`), so that each sees only what was kept before,
except that the first source map of a deployed address stays.
-/

namespace CodeAtlas

/-- What a lookup asks for. -/
inductive Query
  /-- The source map. -/
  | map
  /-- The entry of the instruction with an index. -/
  | atIndex (index : Nat)
  /-- The entry of the instruction that ran at a step of the trace. -/
  | atStep (step : Nat)
  deriving DecidableEq, Repr

/-- A lookup. -/
structure Lookup where
  /-- Where the code is. -/
  address : CodeAddress
  /-- The artifacts to look among. -/
  artifacts : ArtifactSet
  /-- What is asked for. -/
  query : Query

/-- What a lookup finds. -/
inductive Found
  /-- A source map. -/
  | map (resolved : Resolved)
  /-- An entry. -/
  | entry (entry : Entry)

/-- What a lookup comes to: what it finds, or why it finds nothing. -/
abbrev LookupResult := Except LookupError Found

/-- A resolver over a provider of the type `σ`. -/
structure Resolver (σ : Type) where
  /-- What provides the code. -/
  provider : σ
  /-- Which running code is a form of which candidate. -/
  isMatch : Matcher
  /-- What is kept of the lookups so far. -/
  caches : Caches := .empty

/-- What a resolver has done. -/
structure Turn (σ α : Type) where
  /-- What comes of it. -/
  result : α
  /-- The resolver from now on. -/
  resolver : Resolver σ
  /-- What is reported. -/
  records : List Log.Record := []

/-- What was done, with the reports of what came before. -/
def Turn.behind {σ α : Type} (turn : Turn σ α) (records : List Log.Record) : Turn σ α :=
  { turn with records := records ++ turn.records }

namespace Resolver

variable {σ : Type} [CodeProvider σ]

/-- Fetches code and resolves it. -/
def fetch (resolver : Resolver σ) (address : CodeAddress) (artifacts : ArtifactSet) :
    Turn σ (Except LookupError Resolved) :=
  let reply := CodeProvider.code resolver.provider address
  let completion := resolver.caches.finish resolver.isMatch artifacts address reply.result
  { result := completion.result,
    resolver := { resolver with provider := reply.provider, caches := completion.caches },
    records := reply.records ++ completion.records }

/-- Answers a lookup from the source map. -/
def answer (resolver : Resolver σ) (request : Lookup) (resolved : Resolved) :
    Turn σ LookupResult :=
  match request.query with
  | .map => ⟨.ok (.map resolved), resolver, []⟩
  | .atIndex index => ⟨(resolved.map.lookup index).map .entry, resolver, []⟩
  | .atStep step =>
    let reply := CodeProvider.instructionIndex resolver.provider request.address step
    let result :=
      match reply.result with
      | .error failure => .error (.provider failure)
      | .ok index => (resolved.map.lookup index).map .entry
    ⟨result, { resolver with provider := reply.provider }, reply.records⟩

/-- Runs a lookup until it needs code. There is a result if it needs none. -/
def begin (resolver : Resolver σ) (request : Lookup) : Turn σ (Option LookupResult) :=
  let record := resolver.caches.startRecord request.address
  match resolver.caches.start request.address with
  | none => ⟨none, resolver, [record]⟩
  | some resolved =>
    let answered := resolver.answer request resolved
    ⟨some answered.result, answered.resolver, record :: answered.records⟩

/-- Runs a lookup that needs code to its end. -/
def resume (resolver : Resolver σ) (request : Lookup) : Turn σ LookupResult :=
  let fetched := resolver.fetch request.address request.artifacts
  match fetched.result with
  | .error error => ⟨.error error, fetched.resolver, fetched.records⟩
  | .ok resolved => (fetched.resolver.answer request resolved).behind fetched.records

/-- Runs a lookup from where `begin` has left it. -/
def conclude (resolver : Resolver σ) (request : Lookup) :
    Option LookupResult → Turn σ LookupResult
  | some result => ⟨result, resolver, []⟩
  | none => resolver.resume request

/-- Runs a lookup from its beginning to its end. -/
def lookup (resolver : Resolver σ) (request : Lookup) : Turn σ LookupResult :=
  let begun := resolver.begin request
  (begun.resolver.conclude request begun.result).behind begun.records

/-- Does something for each item of a list, one after the other. -/
def forEach {α β : Type} (act : Resolver σ → α → Turn σ β) (resolver : Resolver σ) :
    List α → Turn σ (List β)
  | [] => ⟨[], resolver, []⟩
  | item :: items =>
    let first := act resolver item
    let others := forEach act first.resolver items
    ⟨first.result :: others.result, others.resolver, first.records ++ others.records⟩

/-- Runs lookups together: all begin, and then those that need code go on in order. -/
def join (resolver : Resolver σ) (requests : List Lookup) : Turn σ (List LookupResult) :=
  let begun := forEach begin resolver requests
  (forEach (fun resolver (request, result) => resolver.conclude request result) begun.resolver
    (requests.zip begun.result)).behind begun.records

/-- Forgets everything that is kept. -/
def clear (resolver : Resolver σ) : Turn σ Unit :=
  ⟨(), { resolver with caches := .empty }, [Caches.clearRecord]⟩

end Resolver

end CodeAtlas
