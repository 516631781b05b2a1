import CodeAtlas.Artifact
import CodeAtlas.LookupError
import CodeAtlas.Table

/-!
# Caches of source maps

The source map of running code is found by fetching the code, looking for the artifact of which it
is a form, and reading the source map of that artifact. Deployed code never changes, so the source
map of a deployed address is kept. The code of a creation is resolved anew each time, since its step
is not unique across transactions. The sources that the compiler generated are kept for both.

A lookup has two steps that touch the caches. The first (`Caches.start`) looks for what is kept and,
on a miss, has the code fetched. The second (`Caches.finish`) takes the code when it comes. Between
the two, other lookups may take steps of their own. When two lookups of one deployed address both
miss, the first to finish decides the source map that is kept, and both return it.
-/

namespace CodeAtlas

/-! ## What is kept -/

/-- A source map with the sources it may refer to. -/
structure Resolved where
  /-- The source map. -/
  map : SourceMap
  /-- The generated sources. -/
  generated : List GeneratedSource

/-- What is kept of the lookups so far. -/
structure Caches where
  /-- The source map of each deployed address. -/
  sourceMaps : Table Address Resolved
  /-- The generated sources of each code address. -/
  generated : Table CodeAddress (List GeneratedSource)

namespace Caches

/-- Nothing is kept. -/
def empty : Caches :=
  ⟨.empty, .empty⟩

/-- The source map that is kept for a code address. -/
def cached (caches : Caches) (address : CodeAddress) : Option Resolved :=
  address.deployed?.bind caches.sourceMaps.get?

/-- Whether a source map is kept for a code address. -/
def isCached (caches : Caches) (address : CodeAddress) : Bool :=
  (caches.cached address).isSome

/-- The generated sources that are kept for a code address. -/
def generatedFor (caches : Caches) (address : CodeAddress) : Option (List GeneratedSource) :=
  caches.generated.get? address

/-- Keeps what was found for a code address. The generated sources replace those that are kept, and
a source map is kept only if there is none. Returns the source map to go on with: the one that is
kept, if the address is deployed. -/
def record (caches : Caches) (address : CodeAddress) (resolved : Resolved) : Caches × Resolved :=
  let generated := caches.generated.insert address resolved.generated
  match address with
  | .creation _ => (⟨caches.sourceMaps, generated⟩, resolved)
  | .deployed account =>
    match caches.sourceMaps.get? account with
    -- Another lookup of the same address was faster.
    | some kept => (⟨caches.sourceMaps, generated⟩, kept)
    | none => (⟨caches.sourceMaps.insert account resolved, generated⟩, resolved)

end Caches

/-! ## From code to its source map -/

/-- The source map of the artifact that a search has found for the code at an address. -/
def Search.resolve (search : Search) (address : CodeAddress) : Except LookupError Resolved :=
  match search.found with
  | none => .error (.noSourceMap address)
  | some matched =>
    match matched.sourceMap with
    | none => .error (.noSourceMap address)
    | some text =>
      match SourceMap.decode text with
      | .error malformed => .error (.malformedSourceMap malformed)
      | .ok map => .ok ⟨map, matched.generated⟩

/-- What is reported about the artifact that a search has found: that it has no source map, or how
many entries its source map has. -/
def Search.outcomeRecords (search : Search) (address : CodeAddress) : List Log.Record :=
  match search.found with
  | none => []
  | some matched =>
    match matched.sourceMap with
    | none =>
      [{ level := .warn, message := "matched artifact carries no source map",
         values := [("address", .text address.display), ("file", .text matched.file.text),
          ("contract", .text matched.contract)] }]
    | some text =>
      match SourceMap.decode text with
      | .error _ => []
      | .ok map =>
        [{ level := .debug, message := "resolved source map",
           values := [("address", .text address.display), ("contract", .text matched.contract),
            ("entries", .number map.size)] }]

namespace Caches

/-- What the last step of a lookup comes to. -/
structure Completion where
  /-- The source map, or why there is none. -/
  result : Except LookupError Resolved
  /-- What is kept from now on. -/
  caches : Caches
  /-- What is reported. -/
  records : List Log.Record

/-- The first step of a lookup: the source map that is kept, or `none` when the code is needed. -/
def start (caches : Caches) (address : CodeAddress) : Option Resolved :=
  caches.cached address

/-- What the first step of a lookup reports. -/
def startRecord (caches : Caches) (address : CodeAddress) : Log.Record :=
  { level := .debug,
    message :=
      if caches.isCached address then "source map cache hit"
      else "source map cache miss, fetching code",
    values := [("address", .text address.display)] }

/-- The second step of a lookup, with the code that came or the failure to get it. Nothing is kept
unless there is a source map. -/
def finish (caches : Caches) (isMatch : Matcher) (artifacts : ArtifactSet) (address : CodeAddress)
    (answer : Except Failure (List UInt8)) : Completion :=
  match answer with
  | .error failure => ⟨.error (.provider failure), caches, []⟩
  | .ok code =>
    let search := artifacts.search isMatch address code
    let records := search.records address ++ search.outcomeRecords address
    match search.resolve address with
    | .error error => ⟨.error error, caches, records⟩
    | .ok resolved =>
      let (caches, resolved) := caches.record address resolved
      ⟨.ok resolved, caches, records⟩

/-- What is reported when everything that is kept is forgotten. -/
def clearRecord : Log.Record :=
  { level := .debug, message := "clearing source map caches" }

end Caches

end CodeAtlas
