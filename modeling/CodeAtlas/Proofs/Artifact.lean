import CodeAtlas.Artifact
import CodeAtlas.Proofs.Caches

/-!
# Which contract is found

`searchList` walks over the contracts and remembers what it passes over. What it finds is the first
contract that matches (`searchList_found_eq`, `ArtifactSet.chosen`), and the rest of a lookup follows
from the bytecode of that contract (`resolution_of_chosen`).
-/

namespace CodeAtlas

/-- The bytecode and the candidate of a contract of which running code is a form. -/
def NamedContract.matched? (item : NamedContract) (isMatch : Matcher) (address : CodeAddress)
    (running : List UInt8) : Option (Bytecode × Candidate) :=
  match item.contract.relevant address with
  | none => none
  | some (bytecode, immutables) =>
    match Candidate.ofBytecode bytecode immutables with
    | none => none
    | some candidate =>
      if isMatch running candidate address.isCreation then some (bytecode, candidate) else none

/-- The bytecode and the candidate of the first contract of which running code is a form. -/
def ArtifactSet.chosen (artifacts : ArtifactSet) (isMatch : Matcher) (address : CodeAddress)
    (running : List UInt8) : Option (Bytecode × Candidate) :=
  artifacts.contracts.findSome? (·.matched? isMatch address running)

/-- The chosen candidate is the one of its bytecode, and the matcher accepts it. -/
theorem ArtifactSet.chosen_spec {artifacts : ArtifactSet} {isMatch : Matcher}
    {address : CodeAddress} {running : List UInt8} {bytecode : Bytecode} {candidate : Candidate}
    (h : artifacts.chosen isMatch address running = some (bytecode, candidate)) :
    (∃ immutables, Candidate.ofBytecode bytecode immutables = some candidate) ∧
      isMatch running candidate address.isCreation = true := by
  obtain ⟨item, -, hitem⟩ := List.exists_of_findSome?_eq_some h
  unfold NamedContract.matched? at hitem
  split at hitem
  · cases hitem
  · rename_i other immutables hrelevant
    split at hitem
    · cases hitem
    · rename_i own hcandidate
      split at hitem
      · rename_i haccepts
        cases hitem
        exact ⟨⟨immutables, hcandidate⟩, haccepts⟩
      · cases hitem

/-- What a search finds if it chooses a contract. -/
def NamedContract.artifact? (item : NamedContract) (isMatch : Matcher) (address : CodeAddress)
    (running : List UInt8) : Option MatchedArtifact :=
  (item.matched? isMatch address running).map fun (bytecode, _) =>
    ⟨item.file, item.name, bytecode.sourceMap, bytecode.generated⟩

/-- A search finds the first contract that can be chosen. -/
theorem searchList_found_eq (isMatch : Matcher) (address : CodeAddress) (running : List UInt8)
    (items : List NamedContract) :
    (searchList isMatch address running items).found =
      items.findSome? (·.artifact? isMatch address running) := by
  induction items with
  | nil => rfl
  | cons item items ih =>
    obtain ⟨file, name, contract⟩ := item
    rw [List.findSome?_cons, searchList, NamedContract.artifact?, NamedContract.matched?]
    cases hrelevant : contract.relevant address with
    | none => simpa only [hrelevant, Option.map_none] using ih
    | some relevant =>
      obtain ⟨bytecode, immutables⟩ := relevant
      cases hcandidate : Candidate.ofBytecode bytecode immutables with
      | none => simpa only [hrelevant, hcandidate, Option.map_none] using ih
      | some candidate =>
        cases haccepts : isMatch running candidate address.isCreation with
        | true => simp [hcandidate, haccepts]
        | false => simpa [hcandidate, haccepts] using ih

/-- A search finds the first contract that matches, with the source map and the generated sources of
the bytecode that matches. -/
theorem searchList_found {isMatch : Matcher} {address : CodeAddress} {running : List UInt8}
    {items : List NamedContract} {bytecode : Bytecode} {candidate : Candidate}
    (h : items.findSome? (·.matched? isMatch address running) = some (bytecode, candidate)) :
    ∃ file name, (searchList isMatch address running items).found =
      some ⟨file, name, bytecode.sourceMap, bytecode.generated⟩ := by
  obtain ⟨before, item, behind, rfl, hitem, hbefore⟩ := List.findSome?_eq_some_iff.mp h
  refine ⟨item.file, item.name, ?_⟩
  rw [searchList_found_eq, List.findSome?_eq_some_iff]
  refine ⟨before, item, behind, rfl, ?_, fun other hother => ?_⟩
  · rw [NamedContract.artifact?, hitem]
    rfl
  · rw [NamedContract.artifact?, hbefore other hother]
    rfl

/-- Code resolves to the source map and the generated sources of the chosen bytecode. -/
theorem Caches.resolution_of_chosen {artifacts : ArtifactSet} {isMatch : Matcher}
    {address : CodeAddress} {running : List UInt8} {bytecode : Bytecode} {candidate : Candidate}
    {text : String} {m : SourceMap}
    (hchosen : artifacts.chosen isMatch address running = some (bytecode, candidate))
    (htext : bytecode.sourceMap = some text) (hdecode : SourceMap.decode text = .ok m) :
    resolution isMatch artifacts address (.ok running) = .ok ⟨m, bytecode.generated⟩ := by
  obtain ⟨file, name, hfound⟩ := searchList_found hchosen
  rw [htext] at hfound
  show (artifacts.search isMatch address running).resolve address = _
  unfold Search.resolve ArtifactSet.search
  simp only [hfound, hdecode]

end CodeAtlas
