import CodeAtlas.Proofs.Artifact.Eligibility
import CodeAtlas.Proofs.ByteOrder
import CodeAtlas.Proofs.Trace
import Mathlib.Logic.Basic
import Mathlib.Tactic.ByContra

/-!
# The first contract that matches

A search visits the contracts of a compilation in the order of their files and, in a file, in the
order of the bytes of their names (`NamedContract.Precedes`). A contract takes part with the
bytecode that the kind of the address asks for, if it has it and it is code (`Contract.Offers`).
What is found is the least of the contracts that take part and match, and the source map and the
generated sources are those of the bytecode that matched.

From this follows what a search does not look at (`ArtifactSet.search_first`): the contracts behind
the one that is found, those that take no part or do not match, and, for deployed code, the init code
of every contract.
-/

namespace CodeAtlas

open Text

/-! ## The order of contracts -/

/-- A contract stands in front of another one: its file does, or they are in the same file and the
bytes of its name come first. -/
def NamedContract.Precedes (item other : NamedContract) : Prop :=
  compare item.file.place other.file.place = .lt ∨
    (compare item.file.place other.file.place = .eq ∧
      utf8 item.name.toList < utf8 other.name.toList)

/-- Of two contracts only one stands in front of the other. -/
theorem NamedContract.Precedes.asymm {item other : NamedContract} (h : item.Precedes other) :
    ¬ other.Precedes item := by
  rcases h with hfile | ⟨hfile, hname⟩
  · have hgreater := Std.OrientedCmp.gt_iff_lt.mpr hfile
    rintro (hfile' | ⟨hfile', -⟩)
    · rw [hfile'] at hgreater
      cases hgreater
    · rw [hfile'] at hgreater
      cases hgreater
  · have hsame := Std.OrientedCmp.eq_symm hfile
    rintro (hfile' | ⟨-, hname'⟩)
    · rw [hsame] at hfile'
      cases hfile'
    · exact List.lt_asymm hname hname'

/-- The contracts of a compilation are in order. -/
theorem ArtifactSet.pairwise_contracts (artifacts : ArtifactSet) :
    artifacts.contracts.Pairwise NamedContract.Precedes := by
  unfold contracts
  refine List.pairwise_flatMap.mpr ⟨?_, ?_⟩
  · -- In one file the names ascend.
    rintro ⟨file, contracts⟩ -
    refine List.pairwise_map.mpr (contracts.ascending.imp ?_)
    intro pair other hnames
    exact .inr ⟨Std.ReflCmp.compare_self, utf8_lt_of_compare hnames⟩
  · -- The files ascend.
    refine artifacts.ascending.imp ?_
    rintro ⟨file, contracts⟩ ⟨file', contracts'⟩ hfiles item hitem other hother
    obtain ⟨pair, -, rfl⟩ := List.mem_map.mp hitem
    obtain ⟨pair', -, rfl⟩ := List.mem_map.mp hother
    exact .inl hfiles

/-! ## What takes part -/

/-- A contract takes part in a search for the code of an address with some of its bytecode, read as a
candidate: for a contract creation with its init code, which has no immutable ranges, and for an
account with its deployed code. In both cases it has deployed code. -/
inductive Contract.Offers (contract : Contract) : CodeAddress → Bytecode → Candidate → Prop
  /-- Init code. -/
  | creation {step : UInt64} {bytecode : Bytecode} {candidate : Candidate}
      (isDeployed : contract.deployed ≠ none) (present : contract.creation = some bytecode)
      (reads : Candidate.ofBytecode bytecode [] = some candidate) :
      Offers contract (.creation step) bytecode candidate
  /-- Deployed code. -/
  | deployed {account : Address} {code : DeployedCode} {bytecode : Bytecode}
      {candidate : Candidate} (isDeployed : contract.deployed = some code)
      (present : code.bytecode = some bytecode)
      (reads : Candidate.ofBytecode bytecode code.immutables = some candidate) :
      Offers contract (.deployed account) bytecode candidate

/-- A contract takes part in a search with what it is compared with, if it can be read. -/
theorem Contract.offers_iff {contract : Contract} {address : CodeAddress} {bytecode : Bytecode}
    {candidate : Candidate} :
    contract.Offers address bytecode candidate ↔
      ∃ immutables, contract.relevant address = some (bytecode, immutables) ∧
        Candidate.ofBytecode bytecode immutables = some candidate := by
  constructor
  · rintro (⟨hdeployed, hpresent, hreads⟩ | ⟨hdeployed, hpresent, hreads⟩)
    · obtain ⟨code, hcode⟩ := Option.ne_none_iff_exists'.mp hdeployed
      refine ⟨[], ?_, hreads⟩
      rw [relevant, hcode]
      show (contract.creation.bind fun bytecode => some (bytecode, [])) = _
      rw [hpresent]
      rfl
    · refine ⟨_, ?_, hreads⟩
      rename_i code
      rw [relevant, hdeployed]
      show (code.bytecode.bind fun bytecode => some (bytecode, code.immutables)) = _
      rw [hpresent]
      rfl
  · rintro ⟨immutables, hrelevant, hreads⟩
    obtain ⟨code, hcode, hbytecode⟩ := Option.bind_eq_some_iff.mp hrelevant
    cases address with
    | deployed account =>
      obtain ⟨own, hown, hpair⟩ := Option.bind_eq_some_iff.mp hbytecode
      cases hpair
      exact .deployed hcode hown hreads
    | creation step =>
      obtain ⟨own, hown, hpair⟩ := Option.bind_eq_some_iff.mp hbytecode
      cases hpair
      exact .creation (by rw [hcode]; exact Option.some_ne_none _) hown hreads

/-- Running code is a form of a contract: it matches what the contract takes part with. -/
def NamedContract.Accepted (item : NamedContract) (isMatch : Matcher) (address : CodeAddress)
    (running : List UInt8) : Prop :=
  ∃ bytecode candidate, item.contract.Offers address bytecode candidate ∧
    isMatch running candidate address.isCreation = true

/-- What matches of a contract is what it takes part with, if the matcher accepts it. -/
theorem NamedContract.matched?_eq_some_iff {item : NamedContract} {isMatch : Matcher}
    {address : CodeAddress} {running : List UInt8} {bytecode : Bytecode} {candidate : Candidate} :
    item.matched? isMatch address running = some (bytecode, candidate) ↔
      item.contract.Offers address bytecode candidate ∧
        isMatch running candidate address.isCreation = true := by
  unfold matched?
  rw [Contract.offers_iff]
  constructor
  · intro h
    split at h
    · cases h
    · rename_i own immutables hrelevant
      split at h
      · cases h
      · rename_i other hreads
        split at h
        · rename_i haccepts
          cases h
          exact ⟨⟨immutables, hrelevant, hreads⟩, haccepts⟩
        · cases h
  · rintro ⟨⟨immutables, hrelevant, hreads⟩, haccepts⟩
    simp only [hrelevant, hreads, if_pos haccepts]

/-- What is found of a contract is its file and its name with the source map and the generated
sources of the bytecode that matches. -/
theorem NamedContract.artifact?_eq_some_iff {item : NamedContract} {isMatch : Matcher}
    {address : CodeAddress} {running : List UInt8} {found : MatchedArtifact} :
    item.artifact? isMatch address running = some found ↔
      ∃ bytecode candidate, item.contract.Offers address bytecode candidate ∧
        isMatch running candidate address.isCreation = true ∧
        found = ⟨item.file, item.name, bytecode.sourceMap, bytecode.generated⟩ := by
  unfold artifact?
  rw [Option.map_eq_some_iff]
  constructor
  · rintro ⟨⟨bytecode, candidate⟩, hmatched, rfl⟩
    obtain ⟨hoffers, haccepts⟩ := matched?_eq_some_iff.mp hmatched
    exact ⟨bytecode, candidate, hoffers, haccepts, rfl⟩
  · rintro ⟨bytecode, candidate, hoffers, haccepts, rfl⟩
    exact ⟨(bytecode, candidate), matched?_eq_some_iff.mpr ⟨hoffers, haccepts⟩, rfl⟩

/-- Something is found of a contract if and only if running code is a form of it. -/
theorem NamedContract.accepted_iff {item : NamedContract} {isMatch : Matcher}
    {address : CodeAddress} {running : List UInt8} :
    item.Accepted isMatch address running ↔ item.artifact? isMatch address running ≠ none := by
  rw [Option.ne_none_iff_exists']
  constructor
  · rintro ⟨bytecode, candidate, hoffers, haccepts⟩
    exact ⟨_, artifact?_eq_some_iff.mpr ⟨bytecode, candidate, hoffers, haccepts, rfl⟩⟩
  · rintro ⟨found, hfound⟩
    obtain ⟨bytecode, candidate, hoffers, haccepts, -⟩ := artifact?_eq_some_iff.mp hfound
    exact ⟨bytecode, candidate, hoffers, haccepts⟩

/-! ## The first that matches -/

/-- In a list in order, the first value that a function has is that at the least place where it has
one. -/
theorem findSome?_eq_some_iff_of_pairwise {α β : Type} {precedes : α → α → Prop}
    (hasymm : ∀ {a b}, precedes a b → ¬ precedes b a) {items : List α}
    (hordered : items.Pairwise precedes) {f : α → Option β} {value : β} :
    items.findSome? f = some value ↔
      ∃ item ∈ items, f item = some value ∧
        ∀ other ∈ items, f other ≠ none → other = item ∨ precedes item other := by
  constructor
  · intro hfound
    obtain ⟨before, item, behind, rfl, hitem, hbefore⟩ := List.findSome?_eq_some_iff.mp hfound
    refine ⟨item, List.mem_append_right _ List.mem_cons_self, hitem, fun other hother hvalue => ?_⟩
    rcases List.mem_append.mp hother with hfront | hrest
    · exact absurd (hbefore other hfront) hvalue
    · rcases List.mem_cons.mp hrest with rfl | hlast
      · exact .inl rfl
      · exact .inr (List.rel_of_pairwise_cons (List.pairwise_append.mp hordered).2.1 hlast)
  · rintro ⟨item, hmem, hitem, hleast⟩
    obtain ⟨before, behind, rfl⟩ := List.append_of_mem hmem
    refine List.findSome?_eq_some_iff.mpr ⟨before, item, behind, rfl, hitem, fun other hother => ?_⟩
    -- A value in front would be at a smaller place.
    by_contra hvalue
    have hfront : precedes other item :=
      (List.pairwise_append.mp hordered).2.2 other hother item List.mem_cons_self
    rcases hleast other (List.mem_append_left _ hother) hvalue with rfl | hbehind
    · exact hasymm hfront hfront
    · exact hasymm hfront hbehind

namespace ArtifactSet

/-- A search finds the least of the contracts that match. -/
theorem search_found_eq_some_iff {artifacts : ArtifactSet} {isMatch : Matcher}
    {address : CodeAddress} {running : List UInt8} {found : MatchedArtifact} :
    (artifacts.search isMatch address running).found = some found ↔
      ∃ item ∈ artifacts.contracts, item.artifact? isMatch address running = some found ∧
        ∀ other ∈ artifacts.contracts, other.Accepted isMatch address running →
          other = item ∨ item.Precedes other := by
  rw [search, searchList_found_eq,
    findSome?_eq_some_iff_of_pairwise NamedContract.Precedes.asymm artifacts.pairwise_contracts]
  simp only [NamedContract.accepted_iff]

/-- A search finds nothing if and only if no contract matches. -/
theorem search_found_eq_none_iff {artifacts : ArtifactSet} {isMatch : Matcher}
    {address : CodeAddress} {running : List UInt8} :
    (artifacts.search isMatch address running).found = none ↔
      ∀ item ∈ artifacts.contracts, ¬ item.Accepted isMatch address running := by
  rw [search, searchList_found_eq, List.findSome?_eq_none_iff]
  simp only [NamedContract.accepted_iff, ne_eq, not_not]

/-- The contract of which something is found is the one that a search selects. -/
theorem search_selects {artifacts : ArtifactSet} {isMatch : Matcher} {address : CodeAddress}
    {running : List UInt8} {found : MatchedArtifact} {item : NamedContract}
    (hfound : (artifacts.search isMatch address running).found = some found)
    (hitem : item.artifact? isMatch address running = some found) :
    (artifacts.search isMatch address running).Selects item :=
  ⟨found, hfound, (NamedContract.artifact?_names hitem).1, (NamedContract.artifact?_names hitem).2⟩

/-- Contracts that are added, removed or changed do not matter if each of them, before and after the
change, does not match or stands behind the contract that is found. -/
theorem search_found_congr {artifacts others : ArtifactSet} {isMatch : Matcher}
    {address : CodeAddress} {running : List UInt8}
    (h : ∀ item, ¬ (item ∈ artifacts.contracts ↔ item ∈ others.contracts) →
      ¬ item.Accepted isMatch address running ∨
        ∃ selected ∈ artifacts.contracts,
          (artifacts.search isMatch address running).Selects selected ∧ selected.Precedes item) :
    (others.search isMatch address running).found =
      (artifacts.search isMatch address running).found := by
  cases hfound : (artifacts.search isMatch address running).found with
  | none =>
    rw [search_found_eq_none_iff] at hfound ⊢
    intro item hitem haccepted
    have hnew : item ∉ artifacts.contracts := fun hold => hfound item hold haccepted
    rcases h item (fun hsame => hnew (hsame.mpr hitem)) with hnot | ⟨selected, hmem, hselects, -⟩
    · exact hnot haccepted
    · -- Nothing is found, so nothing can stand behind what is found.
      obtain ⟨found, hsome, -⟩ := hselects
      have hnone := search_found_eq_none_iff.mpr hfound
      rw [hsome] at hnone
      cases hnone
  | some found =>
    obtain ⟨item, hitem, hartifact, hleast⟩ := search_found_eq_some_iff.mp hfound
    -- What stands behind the contract that is found stands behind this one.
    have hbehind : ∀ other, (∃ selected ∈ artifacts.contracts,
        (artifacts.search isMatch address running).Selects selected ∧ selected.Precedes other) →
        item.Precedes other := by
      rintro other ⟨selected, hselected, ⟨own, hown, hownFile, hownName⟩, hprecedes⟩
      rw [hfound] at hown
      cases hown
      rwa [eq_of_artifact? hselected hitem hartifact hownFile hownName] at hprecedes
    have haccepted : item.Accepted isMatch address running := by
      rw [NamedContract.accepted_iff, hartifact]
      exact Option.some_ne_none _
    have hkept : item ∈ others.contracts := by
      by_contra hgone
      rcases h item (fun hsame => hgone (hsame.mp hitem)) with hnot | hfar
      · exact hnot haccepted
      · have hself := hbehind item hfar
        exact hself.asymm hself
    refine search_found_eq_some_iff.mpr ⟨item, hkept, hartifact, fun other hother hmatches => ?_⟩
    by_cases hold : other ∈ artifacts.contracts
    · exact hleast other hold hmatches
    · rcases h other (fun hsame => hold (hsame.mpr hother)) with hnot | hfar
      · exact absurd hmatches hnot
      · exact .inr (hbehind other hfar)

end ArtifactSet

/-! ## Deployed code and init code -/

/-- A contract without its init code. -/
def NamedContract.withoutCreation (item : NamedContract) : NamedContract :=
  { item with contract := { item.contract with creation := none } }

/-- A search for deployed code does not look at init code. -/
theorem searchList_withoutCreation (isMatch : Matcher) {address : CodeAddress}
    (haddress : address.isCreation = false) (running : List UInt8) (items : List NamedContract) :
    searchList isMatch address running (items.map NamedContract.withoutCreation) =
      searchList isMatch address running items := by
  induction items with
  | nil => rfl
  | cons item items ih =>
    obtain ⟨file, name, contract⟩ := item
    have hrelevant : Contract.relevant { contract with creation := none } address =
        contract.relevant address := by
      simp only [Contract.relevant, haddress]
      rfl
    rw [List.map_cons, NamedContract.withoutCreation, searchList, searchList, hrelevant, ih]

/-! ## What a search depends on -/

/-- A search finds something if and only if it is of the least contract, in the order of files and of
the bytes of names, that takes part and matches, with the source map and the generated sources of the
bytecode that matches. It finds nothing if and only if no contract takes part and matches. The same is
found in another compilation if every contract that only one of the two has, be it added, removed, or
one of the two forms of a changed one, does not match or stands behind the contract that is found. A
search for deployed code is the same in two compilations that differ in init code only. -/
theorem ArtifactSet.search_first (artifacts : ArtifactSet) (isMatch : Matcher)
    (address : CodeAddress) (running : List UInt8) :
    (∀ found, (artifacts.search isMatch address running).found = some found ↔
      ∃ item ∈ artifacts.contracts, ∃ bytecode candidate,
        item.contract.Offers address bytecode candidate ∧
        isMatch running candidate address.isCreation = true ∧
        found = ⟨item.file, item.name, bytecode.sourceMap, bytecode.generated⟩ ∧
        ∀ other ∈ artifacts.contracts, other.Accepted isMatch address running →
          other = item ∨ item.Precedes other) ∧
      ((artifacts.search isMatch address running).found = none ↔
        ∀ item ∈ artifacts.contracts, ¬ item.Accepted isMatch address running) ∧
      (∀ others : ArtifactSet,
        (∀ item, ¬ (item ∈ artifacts.contracts ↔ item ∈ others.contracts) →
          ¬ item.Accepted isMatch address running ∨
            ∃ selected ∈ artifacts.contracts,
              (artifacts.search isMatch address running).Selects selected ∧
                selected.Precedes item) →
        (others.search isMatch address running).found =
          (artifacts.search isMatch address running).found) ∧
      (address.isCreation = false → ∀ others : ArtifactSet,
        others.contracts.map NamedContract.withoutCreation =
          artifacts.contracts.map NamedContract.withoutCreation →
        others.search isMatch address running = artifacts.search isMatch address running) := by
  refine ⟨fun found => ?_, search_found_eq_none_iff, fun others => search_found_congr, ?_⟩
  · rw [search_found_eq_some_iff]
    refine exists_congr fun item => and_congr_right fun _ => ?_
    rw [NamedContract.artifact?_eq_some_iff]
    constructor
    · rintro ⟨⟨bytecode, candidate, hoffers, haccepts, hfound⟩, hleast⟩
      exact ⟨bytecode, candidate, hoffers, haccepts, hfound, hleast⟩
    · rintro ⟨bytecode, candidate, hoffers, haccepts, hfound, hleast⟩
      exact ⟨⟨bytecode, candidate, hoffers, haccepts, hfound⟩, hleast⟩
  · intro haddress others hsame
    unfold search
    rw [← searchList_withoutCreation isMatch haddress running others.contracts, hsame,
      searchList_withoutCreation isMatch haddress running artifacts.contracts]

/-- A contract whose deployed code is a zero byte. -/
def Contract.zeroByte (creation : Option Bytecode) : Contract :=
  ⟨creation, some ⟨some ⟨.plain [0x00], some "0:1:0", [], []⟩, []⟩⟩

/-- Two files with a contract each, of which the second has a given init code. -/
def ArtifactSet.twins (creation : Option Bytecode) : ArtifactSet :=
  .ofList [(⟨"a.sol"⟩, "A", .zeroByte none), (⟨"b.sol"⟩, "B", .zeroByte creation)]

/-- The contracts of the two files are in the order of the files. -/
theorem ArtifactSet.contracts_twins (creation : Option Bytecode) :
    (twins creation).contracts =
      [⟨⟨"a.sol"⟩, "A", .zeroByte none⟩, ⟨⟨"b.sol"⟩, "B", .zeroByte creation⟩] :=
  rfl

/-- Both contracts match, and the first one is found. It is still found when the second one is
removed, and when the second one gets an init code. -/
theorem ArtifactSet.search_first_of_twins :
    ((twins none).search MatchPolicy.exact.accepts (.deployed .sample) [0x00]).found =
        some ⟨⟨"a.sol"⟩, "A", some "0:1:0", []⟩ ∧
      ((ofList [(⟨"a.sol"⟩, "A", .zeroByte none)]).search MatchPolicy.exact.accepts
        (.deployed .sample) [0x00]).found = some ⟨⟨"a.sol"⟩, "A", some "0:1:0", []⟩ ∧
      ((twins (some ⟨.plain [0x01], none, [], []⟩)).search MatchPolicy.exact.accepts
        (.deployed .sample) [0x00]).found = some ⟨⟨"a.sol"⟩, "A", some "0:1:0", []⟩ := by
  obtain ⟨hfound_iff, -, hchanged, hdeployed⟩ :=
    search_first (twins none) MatchPolicy.exact.accepts (.deployed .sample) [0x00]
  have hsmaller : (⟨⟨"a.sol"⟩, "A", .zeroByte none⟩ : NamedContract).Precedes
      ⟨⟨"b.sol"⟩, "B", .zeroByte none⟩ := .inl (by rfl)
  have hfound : ((twins none).search MatchPolicy.exact.accepts (.deployed .sample) [0x00]).found =
      some ⟨⟨"a.sol"⟩, "A", some "0:1:0", []⟩ := by
    refine (hfound_iff _).mpr ⟨⟨⟨"a.sol"⟩, "A", .zeroByte none⟩, ?_, _, ⟨[0x00], [], [], none⟩,
      .deployed rfl rfl rfl, by decide, rfl, fun other hother _ => ?_⟩
    · rw [contracts_twins]
      exact List.mem_cons_self
    · rw [contracts_twins] at hother
      rcases List.mem_cons.mp hother with rfl | hlast
      · exact .inl rfl
      · exact .inr (List.mem_singleton.mp hlast ▸ hsmaller)
  refine ⟨hfound, ?_, ?_⟩
  · rw [← hfound]
    refine hchanged _ fun item hchange => .inr ⟨⟨⟨"a.sol"⟩, "A", .zeroByte none⟩, ?_, ?_, ?_⟩
    · rw [contracts_twins]
      exact List.mem_cons_self
    · exact ⟨_, hfound, rfl, rfl⟩
    · -- Only the second contract is gone.
      have hleft : (ofList [(⟨"a.sol"⟩, "A", .zeroByte none)]).contracts =
          [⟨⟨"a.sol"⟩, "A", .zeroByte none⟩] :=
        rfl
      rw [contracts_twins, hleft, List.mem_cons, List.mem_singleton, List.mem_singleton] at hchange
      by_cases hfirst : item = ⟨⟨"a.sol"⟩, "A", .zeroByte none⟩
      · exact absurd ⟨fun _ => hfirst, .inl⟩ hchange
      · by_cases hsecond : item = ⟨⟨"b.sol"⟩, "B", .zeroByte none⟩
        · exact hsecond ▸ hsmaller
        · exact absurd ⟨fun h => absurd h (not_or.mpr ⟨hfirst, hsecond⟩), .inl⟩ hchange
  · rw [hdeployed rfl _ (by rw [contracts_twins, contracts_twins]; rfl), hfound]

end CodeAtlas
