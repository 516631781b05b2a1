import CodeAtlas.Proofs.Artifact.FirstMatch
import CodeAtlas.Proofs.Policy
import CodeAtlas.Proofs.Policy.Slices
import Mathlib.Order.BoundedOrder.Basic

/-!
# More and less tolerant policies

Policies are ordered by what they tolerate: a policy is at most another one if the other has every
switch on that it has. `MatchPolicy.exact` is the least policy. A policy that tolerates more marks
more of the mask, and its rule about lengths is weaker, so it accepts whatever a lesser policy does
(`MatchPolicy.accepts_of_le`).

A search stops at the first contract that is accepted. A more tolerant search can therefore find
another contract than a lesser one does, but only one that stands in front of it
(`ArtifactSet.search_mono`).
-/

namespace CodeAtlas

namespace MatchPolicy

/-! ## The order of policies -/

/-- Every switch that is on in a policy is on in another one. -/
structure AtMost (policy other : MatchPolicy) : Prop where
  /-- Library addresses. -/
  ignoreLinkReferences : policy.ignoreLinkReferences = true → other.ignoreLinkReferences = true
  /-- Values of immutable variables. -/
  ignoreImmutables : policy.ignoreImmutables = true → other.ignoreImmutables = true
  /-- Metadata. -/
  ignoreMetadata : policy.ignoreMetadata = true → other.ignoreMetadata = true
  /-- Bytes behind init code. -/
  allowConstructorArgs : policy.allowConstructorArgs = true → other.allowConstructorArgs = true
  /-- The address that a library pushes first. -/
  libraryAddressPrefix : policy.libraryAddressPrefix = true → other.libraryAddressPrefix = true

instance : PartialOrder MatchPolicy where
  le := AtMost
  le_refl _ := ⟨id, id, id, id, id⟩
  le_trans _ _ _ h h' :=
    ⟨h'.1 ∘ h.1, h'.2 ∘ h.2, h'.3 ∘ h.3, h'.4 ∘ h.4, h'.5 ∘ h.5⟩
  le_antisymm := by
    rintro ⟨links, immutables, metadata, arguments, address⟩ ⟨_, _, _, _, _⟩ h h'
    rw [mk.injEq]
    exact ⟨Bool.eq_iff_iff.mpr ⟨h.1, h'.1⟩, Bool.eq_iff_iff.mpr ⟨h.2, h'.2⟩,
      Bool.eq_iff_iff.mpr ⟨h.3, h'.3⟩, Bool.eq_iff_iff.mpr ⟨h.4, h'.4⟩,
      Bool.eq_iff_iff.mpr ⟨h.5, h'.5⟩⟩

instance : OrderBot MatchPolicy where
  bot := exact
  bot_le _ := ⟨nofun, nofun, nofun, nofun, nofun⟩

/-! ## What policies accept -/

variable {policy other : MatchPolicy} {candidate : Candidate} {running : List UInt8}
  {isCreation : Bool}

/-- A more tolerant policy tolerates every range that a lesser one does. -/
theorem tolerated_subset (h : policy ≤ other) (candidate : Candidate) (running : List UInt8) :
    policy.tolerated candidate running ⊆ other.tolerated candidate running := by
  intro range hrange
  rw [mem_tolerated_iff] at hrange ⊢
  rcases hrange with ⟨hon, hlink⟩ | ⟨hon, himmutable⟩ | ⟨hon, hsection⟩ | ⟨hon, hlibrary⟩
  · exact .inl ⟨h.ignoreLinkReferences hon, hlink⟩
  · exact .inr (.inl ⟨h.ignoreImmutables hon, himmutable⟩)
  · exact .inr (.inr (.inl ⟨h.ignoreMetadata hon, hsection⟩))
  · exact .inr (.inr (.inr ⟨h.libraryAddressPrefix hon, hlibrary⟩))

/-- A more tolerant policy accepts whatever a lesser one does. -/
theorem accepts_of_le (h : policy ≤ other)
    (haccepts : policy.accepts running candidate isCreation = true) :
    other.accepts running candidate isCreation = true := by
  rw [accepts_iff] at haccepts ⊢
  obtain ⟨hbytes, hle, hlength, hdiffer⟩ := haccepts
  refine ⟨hbytes, hle, ?_, fun position hposition hbyte => ?_⟩
  · exact hlength.imp_right fun hlonger => ⟨hlonger.1, h.allowConstructorArgs hlonger.2⟩
  · obtain ⟨range, hrange, hcovers⟩ := hdiffer position hposition hbyte
    exact ⟨range, tolerated_subset h candidate running hrange, hcovers⟩

/-- The policy for which every difference matters tolerates no range. -/
theorem tolerated_exact (candidate : Candidate) (running : List UInt8) :
    exact.tolerated candidate running = [] :=
  rfl

/-- The policy for which every difference matters accepts the bytes of the candidate and nothing
else, if there are any. -/
theorem exact_accepts_iff :
    exact.accepts running candidate isCreation = true ↔
      candidate.code ≠ [] ∧ running = candidate.code := by
  rw [accepts_iff, tolerated_exact]
  refine and_congr_right fun _ => ?_
  constructor
  · rintro ⟨-, hlength, hdiffer⟩
    -- No bytes may follow, as the switch for them is off.
    have hsame : running.length = candidate.code.length := hlength.resolve_right (nofun ∘ And.right)
    apply List.ext_getElem?
    intro position
    by_cases hposition : position < candidate.code.length
    · by_contra hbyte
      obtain ⟨range, hrange, -⟩ := hdiffer position hposition (Ne.symm hbyte)
      exact List.not_mem_nil hrange
    · rw [List.getElem?_eq_none (by omega), List.getElem?_eq_none (by omega)]
  · rintro rfl
    exact ⟨Nat.le_refl _, .inl rfl, fun position _ hbyte => absurd rfl hbyte⟩

/-- Every policy accepts the bytes of a candidate, if there are any. -/
theorem accepts_self (policy : MatchPolicy) (hbytes : candidate.code ≠ []) (isCreation : Bool) :
    policy.accepts candidate.code candidate isCreation = true :=
  accepts_of_le (bot_le : exact ≤ policy) (exact_accepts_iff.mpr ⟨hbytes, rfl⟩)

end MatchPolicy

/-! ## More and less tolerant searches -/

/-- A contract that matches matches under a matcher that accepts more. -/
theorem NamedContract.Accepted.mono {item : NamedContract} {isMatch isMatch' : Matcher}
    (h : ∀ running candidate isCreation, isMatch running candidate isCreation = true →
      isMatch' running candidate isCreation = true)
    {address : CodeAddress} {running : List UInt8}
    (haccepted : item.Accepted isMatch address running) :
    item.Accepted isMatch' address running := by
  obtain ⟨bytecode, candidate, hoffers, hmatch⟩ := haccepted
  exact ⟨bytecode, candidate, hoffers, h running candidate address.isCreation hmatch⟩

/-- Where a search finds a contract, a search with a matcher that accepts more finds that contract or
one in front of it. -/
theorem ArtifactSet.search_mono {isMatch isMatch' : Matcher}
    (h : ∀ running candidate isCreation, isMatch running candidate isCreation = true →
      isMatch' running candidate isCreation = true)
    {artifacts : ArtifactSet} {address : CodeAddress} {running : List UInt8}
    (hfinds : (artifacts.search isMatch address running).found ≠ none) :
    ∃ item ∈ artifacts.contracts, ∃ other ∈ artifacts.contracts,
      (artifacts.search isMatch address running).Selects item ∧
      (artifacts.search isMatch' address running).Selects other ∧
      (other = item ∨ other.Precedes item) := by
  obtain ⟨found, hfound⟩ := Option.ne_none_iff_exists'.mp hfinds
  obtain ⟨item, hitem, hartifact, -⟩ := search_found_eq_some_iff.mp hfound
  have haccepted : item.Accepted isMatch address running := by
    rw [NamedContract.accepted_iff, hartifact]
    exact Option.some_ne_none _
  -- The contract is accepted in the other search as well, which finds the least that is.
  have hfinds' : (artifacts.search isMatch' address running).found ≠ none := fun hnone =>
    search_found_eq_none_iff.mp hnone item hitem (haccepted.mono h)
  obtain ⟨found', hfound'⟩ := Option.ne_none_iff_exists'.mp hfinds'
  obtain ⟨other, hother, hartifact', hleast⟩ := search_found_eq_some_iff.mp hfound'
  refine ⟨item, hitem, other, hother, search_selects hfound hartifact,
    search_selects hfound' hartifact', ?_⟩
  exact (hleast item hitem (haccepted.mono h)).imp_left Eq.symm

/-- A policy with every switch on that another one has accepts at least as much: of each candidate
whose ranges have their ends in order, for which neither policy writes outside of its mask, it accepts
the running code that the lesser policy accepts, and in each compilation in which the lesser policy
finds a contract it finds that contract or one in front of it. The least policy accepts the bytes of a
candidate that has any, and nothing else, and every policy accepts these. -/
theorem MatchPolicy.tolerant_of_le {policy other : MatchPolicy} (hle : policy ≤ other) :
    (∀ candidate : Candidate, candidate.IsOrdered → ∀ running isCreation,
      policy.maskInPlace candidate running = some (policy.mask candidate running) ∧
      other.maskInPlace candidate running = some (other.mask candidate running) ∧
      (policy.accepts running candidate isCreation = true →
        other.accepts running candidate isCreation = true)) ∧
    (∀ (artifacts : ArtifactSet) address running,
      (artifacts.search policy.accepts address running).found ≠ none →
        ∃ item ∈ artifacts.contracts, ∃ item' ∈ artifacts.contracts,
          (artifacts.search policy.accepts address running).Selects item ∧
          (artifacts.search other.accepts address running).Selects item' ∧
          (item' = item ∨ item'.Precedes item)) ∧
    exact ≤ policy ∧
    (∀ running (candidate : Candidate) isCreation,
      exact.accepts running candidate isCreation = true ↔
        candidate.code ≠ [] ∧ running = candidate.code) ∧
    ∀ (any : MatchPolicy) (candidate : Candidate) isCreation, candidate.code ≠ [] →
      any.accepts candidate.code candidate isCreation = true := by
  refine ⟨fun candidate hordered running isCreation => ⟨?_, ?_, accepts_of_le hle⟩, ?_, bot_le,
    fun _ _ _ => exact_accepts_iff, fun any _ isCreation hbytes => any.accepts_self hbytes isCreation⟩
  · exact maskInPlace_eq hordered policy running
  · exact maskInPlace_eq hordered other running
  · intro artifacts address running hfinds
    exact ArtifactSet.search_mono (fun _ _ _ => accepts_of_le hle) hfinds

/-- A contract whose deployed code pushes a byte, with given ranges for immutable variables. -/
def Contract.pushing (byte : UInt8) (immutables : List CodeRange) : Contract :=
  ⟨none, some ⟨some ⟨.plain [0x60, byte], none, [], []⟩, immutables⟩⟩

/-- Two files with a contract each. The first one pushes an immutable variable, the second one a
constant. -/
def ArtifactSet.variableAndConstant : ArtifactSet :=
  .ofList [(⟨"a.sol"⟩, "Variable", .pushing 0x00 [⟨1, 2⟩]),
    (⟨"b.sol"⟩, "Constant", .pushing 0x2a [])]

/-- The contracts of the two files are in the order of the files. -/
theorem ArtifactSet.contracts_variableAndConstant :
    variableAndConstant.contracts =
      [⟨⟨"a.sol"⟩, "Variable", .pushing 0x00 [⟨1, 2⟩]⟩, ⟨⟨"b.sol"⟩, "Constant", .pushing 0x2a []⟩] :=
  rfl

/-- The code of the second contract is also what the first one comes to with a value of the variable.
The least policy finds the second contract, and the policy with every switch on the first one. -/
theorem MatchPolicy.tolerant_of_le_of_immutable :
    exact ≤ {} ∧
    accepts {} [0x60, 0x2a] ⟨[0x60, 0x2a], [], [], none⟩ false = true ∧
    ∃ item ∈ ArtifactSet.variableAndConstant.contracts,
      ∃ item' ∈ ArtifactSet.variableAndConstant.contracts,
        (ArtifactSet.variableAndConstant.search exact.accepts (.deployed .sample)
          [0x60, 0x2a]).Selects item ∧
        (ArtifactSet.variableAndConstant.search (accepts {}) (.deployed .sample)
          [0x60, 0x2a]).Selects item' ∧
        item'.Precedes item := by
  have hle : exact ≤ {} := bot_le
  obtain ⟨hcandidates, hsearches, -, hexact, -⟩ := tolerant_of_le hle
  have hconstant : (ArtifactSet.variableAndConstant.search exact.accepts (.deployed .sample)
      [0x60, 0x2a]).found = some ⟨⟨"b.sol"⟩, "Constant", none, []⟩ := by
    rw [ArtifactSet.search, ArtifactSet.contracts_variableAndConstant]
    rfl
  have hvariable : (ArtifactSet.variableAndConstant.search (accepts {}) (.deployed .sample)
      [0x60, 0x2a]).found = some ⟨⟨"a.sol"⟩, "Variable", none, []⟩ := by
    rw [ArtifactSet.search, ArtifactSet.contracts_variableAndConstant]
    rfl
  refine ⟨hle, ?_, ?_⟩
  · have hordered : Candidate.IsOrdered ⟨[0x60, 0x2a], [], [], none⟩ :=
      ⟨fun range hrange => absurd hrange List.not_mem_nil,
        fun range hrange => absurd hrange List.not_mem_nil,
        fun range hrange => absurd hrange (Option.not_mem_none range)⟩
    exact (hcandidates _ hordered [0x60, 0x2a] false).2.2
      ((hexact _ _ _).mpr ⟨List.cons_ne_nil _ _, rfl⟩)
  · obtain ⟨item, hitem, item', hitem', hselects, hselects', hplace⟩ :=
      hsearches .variableAndConstant (.deployed .sample) [0x60, 0x2a]
        (by rw [hconstant]; exact Option.some_ne_none _)
    refine ⟨item, hitem, item', hitem', hselects, hselects', hplace.resolve_left ?_⟩
    rintro rfl
    -- The two searches give different names.
    obtain ⟨found, hfound, -, hname⟩ := hselects
    obtain ⟨found', hfound', -, hname'⟩ := hselects'
    rw [hconstant] at hfound
    rw [hvariable] at hfound'
    cases hfound
    cases hfound'
    exact absurd (hname.trans hname'.symm) (by decide)

end CodeAtlas
