import CodeAtlas.Proofs.Artifact

/-!
# Contracts without deployed code

A contract may have no deployed code at all, or deployed code of which only the immutable references
are left. The first kind takes no part in a search, and removing it from a compilation changes
nothing, not even what is reported. The second kind takes no part in a search for deployed code. Its
init code is compared like any other, however, so that it can be found for a contract creation.
`ArtifactSet.search_withDeployedCode_iff` says when removing both kinds changes what is found.

A search gives the file and the name of the contract it finds, and these belong to no other contract
(`ArtifactSet.contract_unique`), so that the contract that is found is known
(`ArtifactSet.search_restrict_iff`).
-/

namespace CodeAtlas

/-! ## Parts of a compilation -/

namespace ArtifactSet

/-- The contracts of a compilation that pass a test. -/
def restrict (artifacts : ArtifactSet) (keep : Contract → Bool) : ArtifactSet :=
  artifacts.map fun contracts => contracts.filter keep

/-- The contracts that pass the test are left, in the same order. -/
theorem contracts_restrict (artifacts : ArtifactSet) (keep : Contract → Bool) :
    (artifacts.restrict keep).contracts = artifacts.contracts.filter (keep ·.contract) := by
  unfold contracts restrict OrderedMap.map OrderedMap.filter
  rw [List.filter_flatMap, List.flatMap_map]
  congr 1
  funext ⟨file, contracts⟩
  rw [List.filter_map]
  rfl

/-- A file and a name belong to one contract. -/
theorem contract_unique (artifacts : ArtifactSet) {item other : NamedContract}
    (hitem : item ∈ artifacts.contracts) (hother : other ∈ artifacts.contracts)
    (hfile : item.file = other.file) (hname : item.name = other.name) : item = other := by
  unfold contracts at hitem hother
  obtain ⟨⟨file, contracts⟩, hcontracts, hpair⟩ := List.mem_flatMap.mp hitem
  obtain ⟨⟨name, contract⟩, hcontract, rfl⟩ := List.mem_map.mp hpair
  obtain ⟨⟨file', contracts'⟩, hcontracts', hpair'⟩ := List.mem_flatMap.mp hother
  obtain ⟨⟨name', contract'⟩, hcontract', rfl⟩ := List.mem_map.mp hpair'
  obtain rfl : file = file' := hfile
  obtain rfl : name = name' := hname
  obtain rfl : contracts = contracts' := artifacts.value_unique hcontracts hcontracts'
  obtain rfl : contract = contract' := contracts.value_unique hcontract hcontract'
  rfl

end ArtifactSet

/-! ## Searches in a part -/

/-- Contracts that have nothing to compare with can be left out of a search. -/
theorem searchList_filter {isMatch : Matcher} {address : CodeAddress} {running : List UInt8}
    {keep : Contract → Bool}
    (h : ∀ contract : Contract, keep contract = false → contract.relevant address = none)
    (items : List NamedContract) :
    searchList isMatch address running (items.filter (keep ·.contract)) =
      searchList isMatch address running items := by
  induction items with
  | nil => rfl
  | cons item items ih =>
    obtain ⟨file, name, contract⟩ := item
    rw [List.filter_cons]
    cases hkeep : keep contract with
    | true => rw [if_pos rfl, searchList, searchList, ih]
    | false => rw [if_neg Bool.false_ne_true, ih, searchList, h contract hkeep]

/-- A search has found a contract. -/
def Search.Selects (search : Search) (item : NamedContract) : Prop :=
  ∃ found, search.found = some found ∧ found.file = item.file ∧ found.contract = item.name

/-- What a contract is found with names the contract. -/
theorem NamedContract.artifact?_names {item : NamedContract} {isMatch : Matcher}
    {address : CodeAddress} {running : List UInt8} {found : MatchedArtifact}
    (h : item.artifact? isMatch address running = some found) :
    found.file = item.file ∧ found.contract = item.name := by
  obtain ⟨⟨bytecode, candidate⟩, -, rfl⟩ := Option.map_eq_some_iff.mp h
  exact ⟨rfl, rfl⟩

/-- A search finds no other contract than the one whose file and name it gives. -/
theorem ArtifactSet.eq_of_artifact? {artifacts : ArtifactSet} {item other : NamedContract}
    {isMatch : Matcher} {address : CodeAddress} {running : List UInt8} {found : MatchedArtifact}
    (hitem : item ∈ artifacts.contracts) (hother : other ∈ artifacts.contracts)
    (hselected : other.artifact? isMatch address running = some found)
    (hfile : found.file = item.file) (hname : found.contract = item.name) : item = other := by
  obtain ⟨hfile', hname'⟩ := NamedContract.artifact?_names hselected
  exact artifacts.contract_unique hitem hother (hfile.symm.trans hfile') (hname.symm.trans hname')

/-- A part of a compilation has the same to be found as the whole if and only if the contract that is
found in the whole is in the part. -/
theorem ArtifactSet.search_restrict_iff {artifacts : ArtifactSet} {isMatch : Matcher}
    {address : CodeAddress} {running : List UInt8} {keep : Contract → Bool} :
    ((artifacts.restrict keep).search isMatch address running).found =
        (artifacts.search isMatch address running).found ↔
      ∀ item ∈ artifacts.contracts, (artifacts.search isMatch address running).Selects item →
        keep item.contract = true := by
  unfold Search.Selects search
  rw [searchList_found_eq, searchList_found_eq, contracts_restrict]
  constructor
  · rintro hsame item hitem ⟨found, hfound, hfile, hname⟩
    rw [hfound] at hsame
    -- The contract of the part that is found has the same file and name, so it is the same one.
    obtain ⟨other, hother, hselected⟩ := List.exists_of_findSome?_eq_some hsame
    obtain ⟨hmem, hkeep⟩ := List.mem_filter.mp hother
    obtain rfl : item = other := ArtifactSet.eq_of_artifact? hitem hmem hselected hfile hname
    exact hkeep
  · intro h
    cases hfound : artifacts.contracts.findSome? (·.artifact? isMatch address running) with
    | none =>
      rw [List.findSome?_eq_none_iff] at hfound ⊢
      exact fun item hitem => hfound item (List.mem_filter.mp hitem).1
    | some found =>
      obtain ⟨before, item, behind, hcontracts, hselected, hbefore⟩ :=
        List.findSome?_eq_some_iff.mp hfound
      have hmem : item ∈ artifacts.contracts := by
        rw [hcontracts]
        exact List.mem_append_right _ List.mem_cons_self
      have hkeep : keep item.contract = true := by
        obtain ⟨hfile, hname⟩ := NamedContract.artifact?_names hselected
        exact h item hmem ⟨found, hfound, hfile, hname⟩
      -- What stands in front of the contract still cannot be chosen.
      rw [hcontracts, List.filter_append, List.filter_cons, if_pos hkeep, List.findSome?_eq_some_iff]
      exact ⟨_, item, _, rfl, hselected, fun other hother =>
        hbefore other (List.mem_filter.mp hother).1⟩

/-! ## Contracts with deployed code -/

/-- A contract has deployed code, be it without bytecode. -/
def Contract.hasDeployed (contract : Contract) : Bool :=
  contract.deployed.isSome

/-- A contract has the bytecode of its deployed code. -/
def Contract.hasDeployedCode (contract : Contract) : Bool :=
  (contract.deployed.bind (·.bytecode)).isSome

/-- Without deployed code there is nothing to compare with. -/
theorem Contract.relevant_of_not_hasDeployed {contract : Contract} {address : CodeAddress}
    (h : contract.hasDeployed = false) : contract.relevant address = none := by
  have hdeployed : contract.deployed = none :=
    Option.isNone_iff_eq_none.mp (Option.isSome_eq_false_iff.mp h)
  rw [Contract.relevant, hdeployed]
  rfl

/-- A contract that is found has something to compare with. -/
theorem Search.Selects.relevant {artifacts : ArtifactSet} {isMatch : Matcher}
    {address : CodeAddress} {running : List UInt8} {item : NamedContract}
    (h : (artifacts.search isMatch address running).Selects item)
    (hitem : item ∈ artifacts.contracts) : item.contract.relevant address ≠ none := by
  obtain ⟨found, hfound, hfile, hname⟩ := h
  rw [ArtifactSet.search, searchList_found_eq] at hfound
  obtain ⟨other, hother, hselected⟩ := List.exists_of_findSome?_eq_some hfound
  obtain rfl : item = other := ArtifactSet.eq_of_artifact? hitem hother hselected hfile hname
  intro hnone
  rw [NamedContract.artifact?, NamedContract.matched?, hnone] at hselected
  cases hselected

/-- A contract that has something to compare with, but no bytecode of its deployed code, has deployed
code, and the address is of a contract creation. -/
theorem Contract.relevant_of_not_hasDeployedCode {contract : Contract} {address : CodeAddress}
    (hrelevant : contract.relevant address ≠ none) (h : contract.hasDeployedCode = false) :
    address.isCreation = true ∧
      ∃ deployed, contract.deployed = some deployed ∧ deployed.bytecode = none := by
  cases hdeployed : contract.deployed with
  | none => exact absurd (relevant_of_not_hasDeployed (by rw [hasDeployed, hdeployed]; rfl)) hrelevant
  | some deployed =>
    have hcode : deployed.bytecode = none := by
      rw [hasDeployedCode, hdeployed] at h
      exact Option.isNone_iff_eq_none.mp (Option.isSome_eq_false_iff.mp h)
    cases hcreation : address.isCreation with
    | true => exact ⟨rfl, deployed, rfl, hcode⟩
    | false =>
      refine absurd ?_ hrelevant
      simp [Contract.relevant, hdeployed, hcreation, hcode]

/-- Contracts without deployed code are never found and can be left out of a compilation. If contracts
with deployed code but without its bytecode are left out as well, the same is found, except for a
contract creation of which one of these contracts is found. -/
theorem ArtifactSet.search_withDeployedCode_iff (artifacts : ArtifactSet) (isMatch : Matcher)
    (address : CodeAddress) (running : List UInt8) :
    (∀ item ∈ artifacts.contracts, (artifacts.search isMatch address running).Selects item →
        item.contract.hasDeployed = true) ∧
      (artifacts.restrict Contract.hasDeployed).search isMatch address running =
        artifacts.search isMatch address running ∧
      (((artifacts.restrict Contract.hasDeployedCode).search isMatch address running).found =
          (artifacts.search isMatch address running).found ↔
        ¬ ∃ item ∈ artifacts.contracts, (artifacts.search isMatch address running).Selects item ∧
          address.isCreation = true ∧
          ∃ deployed, item.contract.deployed = some deployed ∧ deployed.bytecode = none) := by
  refine ⟨fun item hitem hselects => ?_, ?_, ?_⟩
  · cases hdeployed : item.contract.hasDeployed with
    | true => rfl
    | false =>
      exact absurd (Contract.relevant_of_not_hasDeployed hdeployed) (hselects.relevant hitem)
  · rw [search, search, contracts_restrict]
    exact searchList_filter (fun contract => Contract.relevant_of_not_hasDeployed) _
  · -- Only the contract that is found matters, and for deployed code it has its bytecode.
    rw [search_restrict_iff]
    constructor
    · rintro hkept ⟨item, hitem, hselects, -, deployed, hdeployed, hcode⟩
      have hkept_item := hkept item hitem hselects
      rw [Contract.hasDeployedCode, hdeployed, Option.bind_some, hcode] at hkept_item
      cases hkept_item
    · intro hnever item hitem hselects
      cases hcode : item.contract.hasDeployedCode with
      | true => rfl
      | false =>
        have hcreation := Contract.relevant_of_not_hasDeployedCode (hselects.relevant hitem) hcode
        exact absurd ⟨item, hitem, hselects, hcreation⟩ hnever

/-- A compilation of one contract that has deployed code without bytecode. -/
def ArtifactSet.missingDeployedCode : ArtifactSet :=
  .ofList [(⟨"C.sol"⟩, "C", ⟨some ⟨.plain [0x00], some "0:1:0", [], []⟩, some ⟨none, []⟩⟩)]

/-- The contract whose deployed code has no bytecode is found for its creation. -/
theorem ArtifactSet.search_missingDeployedCode :
    ((missingDeployedCode.restrict Contract.hasDeployedCode).search ({} : MatchPolicy).accepts
        (.creation 1) [0x00]).found = none ∧
      (missingDeployedCode.search ({} : MatchPolicy).accepts (.creation 1) [0x00]).found =
        some ⟨⟨"C.sol"⟩, "C", some "0:1:0", []⟩ :=
  ⟨rfl, rfl⟩

end CodeAtlas
