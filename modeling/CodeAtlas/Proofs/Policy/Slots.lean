import CodeAtlas.Proofs.Indexing
import CodeAtlas.Proofs.Policy.Section
import Mathlib.Tactic.ByContra

/-!
# What stands in the slots of a code

Libraries, constructors and compilers fill in parts of a code that a candidate leaves open. What
they write there has no influence on tolerant comparison: two codes that differ in such slots only
(`MatchPolicy.Slot`) are both accepted or both refused.

The metadata section is the one slot that is open or not by what the running code has in it. Three
of its bytes decide about that, the one that starts its map and the two of its length. They are no
slots as long as no other slot covers them (`MatchPolicy.KeepsSection`; the address that a library
pushes first never does, `not_libraryAddress_of_section`). So the section is open for both codes or
for neither, and if it is not, these bytes are wrong in both, and both are refused
(`MatchPolicy.repeatsSection_of_accepts`).
-/

namespace CodeAtlas

/-- The address that a library pushes first is zero in compiled code. -/
theorem getElem?_of_libraryStart {code : List UInt8} (h : libraryStart <+: code) {position : Nat}
    (hposition : libraryAddress.covers position = true) : code[position]? = some 0 := by
  obtain ⟨rest, rfl⟩ := h
  obtain ⟨hlow, hhigh⟩ : 1 ≤ position ∧ position < 1 + addressLength :=
    CodeRange.covers_iff.mp hposition
  obtain ⟨offset, rfl⟩ : ∃ offset, position = offset + 1 := ⟨position - 1, by omega⟩
  have hzeros : (libraryStart ++ rest)[offset + 1]? =
      (List.replicate addressLength 0 ++ ([0x30, 0x14] ++ rest))[offset]? := rfl
  rw [hzeros, List.getElem?_append_left (by rw [List.length_replicate]; omega),
    List.getElem?_replicate, if_pos (by omega)]

/-- The address that a library pushes first is neither where a metadata section starts nor where the
length of the section stands. -/
theorem not_libraryAddress_of_section {code : List UInt8} {metadata : CodeRange}
    (hlibrary : libraryStart <+: code) (h : metadataRange code = some metadata) {position : Nat}
    (hposition : position ∈ metadata.marks) : libraryAddress.covers position = false := by
  rw [Bool.eq_false_iff]
  intro hcovers
  have hzero := getElem?_of_libraryStart hlibrary hcovers
  obtain ⟨hlong, hstop⟩ := metadataRange_bounds h
  obtain ⟨byte, hbyte, hlow, -⟩ := (repeatsSection_self h).start
  obtain ⟨-, hhigh⟩ : 1 ≤ position ∧ position < 1 + addressLength :=
    CodeRange.covers_iff.mp hcovers
  have hlength : 1 + addressLength + 2 ≤ code.length := hlibrary.length_le
  simp only [CodeRange.marks, List.mem_cons, List.not_mem_nil, or_false] at hposition
  rcases hposition with rfl | rfl | rfl
  · -- A zero byte starts no map.
    rw [hzero] at hbyte
    cases hbyte
    exact absurd hlow (by decide)
  · omega
  · omega

namespace MatchPolicy

/-! ## Slots -/

/-- A position of a candidate at which the running code may have what it likes. -/
inductive Slot (policy : MatchPolicy) (candidate : Candidate) (position : Nat) : Prop
  /-- The address of a library or the value of an immutable variable goes there, and does not
  matter. -/
  | openRange (range : CodeRange) (isOpen : range ∈ policy.openRanges candidate)
      (low : range.start ≤ position) (high : position < range.stop)
  /-- A library has its own address there, which does not matter. -/
  | libraryAddress (ignored : policy.libraryAddressPrefix = true)
      (isLibrary : libraryStart <+: candidate.code) (low : 1 ≤ position) (high : position ≤ 20)
  /-- The position is inside of the metadata section, behind the byte that starts it and in front of
  the length, and metadata does not matter. -/
  | metadata (metadata : CodeRange) (ignored : policy.ignoreMetadata = true)
      (isRange : candidate.metadata = some metadata) (low : metadata.start < position)
      (high : position + 2 < metadata.stop)

/-- If metadata does not matter, no address of a library and no value of an immutable variable goes
to where the metadata section starts, or to where its length stands. -/
def KeepsSection (policy : MatchPolicy) (candidate : Candidate) : Prop :=
  policy.ignoreMetadata = true → ∀ metadata, candidate.metadata = some metadata →
    ∀ position ∈ metadata.marks, ∀ range ∈ policy.openRanges candidate,
      range.covers position = false

/-- The tolerated ranges are the open ones, the metadata section and the address of a library. -/
theorem mem_tolerated_iff_openRanges {policy : MatchPolicy} {candidate : Candidate}
    {running : List UInt8} {range : CodeRange} :
    range ∈ policy.tolerated candidate running ↔
      range ∈ policy.openRanges candidate ∨
      (policy.ignoreMetadata = true ∧ candidate.metadata = some range ∧
        hasMetadataAt running candidate.code range = true) ∨
      (policy.libraryAddressPrefix = true ∧ libraryStart <+: candidate.code ∧
        range = CodeAtlas.libraryAddress) := by
  rw [mem_tolerated_iff, openRanges, List.mem_append, List.mem_ite_nil_right,
    List.mem_ite_nil_right, or_assoc]

section

variable {policy : MatchPolicy} {candidate : Candidate} {running other : List UInt8}
  (hsection : candidate.metadata = metadataRange candidate.code)

include hsection

/-- The bytes that mark the metadata section are no slots. -/
theorem not_slot_of_mem_marks (hkeeps : policy.KeepsSection candidate)
    (hignored : policy.ignoreMetadata = true) {metadata : CodeRange}
    (hmetadata : candidate.metadata = some metadata) {position : Nat}
    (hposition : position ∈ metadata.marks) : ¬ policy.Slot candidate position := by
  have hrange := hsection.symm.trans hmetadata
  intro hslot
  cases hslot with
  | openRange range isOpen low high =>
    have hcovers := hkeeps hignored metadata hmetadata position hposition range isOpen
    rw [CodeRange.covers_iff.mpr ⟨low, high⟩] at hcovers
    cases hcovers
  | libraryAddress _ isLibrary low high =>
    have hcovers := not_libraryAddress_of_section isLibrary hrange hposition
    rw [CodeRange.covers_iff.mpr ⟨low, Nat.lt_succ_of_le high⟩] at hcovers
    cases hcovers
  | metadata metadata' _ isRange low high =>
    cases hmetadata.symm.trans isRange
    simp only [CodeRange.marks, List.mem_cons, List.not_mem_nil, or_false] at hposition
    omega

/-- A code without the metadata section of the candidate is refused: it differs in one of the bytes
that mark the section, and they are no slots. -/
theorem repeatsSection_of_accepts (hkeeps : policy.KeepsSection candidate) {isCreation : Bool}
    (haccepts : policy.accepts running candidate isCreation = true)
    (hignored : policy.ignoreMetadata = true) {metadata : CodeRange}
    (hmetadata : candidate.metadata = some metadata) :
    RepeatsSection running candidate.code metadata := by
  have hrange := hsection.symm.trans hmetadata
  obtain ⟨-, -, -, hdiffer⟩ := accepts_iff.mp haccepts
  by_contra hnot
  have hsame : ∀ position ∈ metadata.marks, candidate.code[position]? = running[position]? := by
    intro position hposition
    by_contra hbyte
    obtain ⟨range, htolerated, hcovers⟩ :=
      hdiffer position (lt_length_of_mem_marks hrange hposition) hbyte
    rcases mem_tolerated_iff_openRanges.mp htolerated with
      hopen | ⟨-, hsome, hfound⟩ | ⟨-, hlibrary, rfl⟩
    · rw [hkeeps hignored metadata hmetadata position hposition range hopen] at hcovers
      cases hcovers
    · exact hnot (Option.some.inj (hsome.symm.trans hmetadata) ▸
        (hasMetadataAt_iff_repeatsSection (hsection.symm.trans hsome)).mp hfound)
    · rw [not_libraryAddress_of_section hlibrary hrange hposition] at hcovers
      cases hcovers
  exact hnot ((repeatsSection_self hrange).congr hsame)

/-- A code that differs from an accepted one in slots only is accepted. -/
theorem accepts_of_accepts (hkeeps : policy.KeepsSection candidate)
    (hlength : running.length = other.length)
    (hagree : ∀ position < candidate.code.length, ¬ policy.Slot candidate position →
      running[position]? = other[position]?) {isCreation : Bool}
    (haccepts : policy.accepts running candidate isCreation = true) :
    policy.accepts other candidate isCreation = true := by
  have hfound : ∀ metadata, policy.ignoreMetadata = true → candidate.metadata = some metadata →
      hasMetadataAt other candidate.code metadata = true := by
    intro metadata hignored hmetadata
    have hrange := hsection.symm.trans hmetadata
    have hrepeats := repeatsSection_of_accepts hsection hkeeps haccepts hignored hmetadata
    refine (hasMetadataAt_iff_repeatsSection hrange).mpr (hrepeats.congr ?_)
    intro position hposition
    exact hagree position (lt_length_of_mem_marks hrange hposition)
      (not_slot_of_mem_marks hsection hkeeps hignored hmetadata hposition)
  rw [accepts_iff, ← hlength]
  obtain ⟨hbytes, hle, hlonger, hdiffer⟩ := accepts_iff.mp haccepts
  refine ⟨hbytes, hle, hlonger, fun position hposition hbyte => ?_⟩
  by_cases hslot : policy.Slot candidate position
  · cases hslot with
    | openRange range isOpen low high =>
      exact ⟨range, mem_tolerated_iff_openRanges.mpr (.inl isOpen),
        CodeRange.covers_iff.mpr ⟨low, high⟩⟩
    | libraryAddress ignored isLibrary low high =>
      exact ⟨CodeAtlas.libraryAddress,
        mem_tolerated_iff_openRanges.mpr (.inr (.inr ⟨ignored, isLibrary, rfl⟩)),
        CodeRange.covers_iff.mpr ⟨low, Nat.lt_succ_of_le high⟩⟩
    | metadata metadata ignored isRange low high =>
      refine ⟨metadata, mem_tolerated_iff_openRanges.mpr
        (.inr (.inl ⟨ignored, isRange, hfound metadata ignored isRange⟩)), ?_⟩
      exact CodeRange.covers_iff.mpr ⟨by omega, by omega⟩
  · -- The accepted code has the same byte there, and what tolerates it tolerates the other one.
    rw [← hagree position hposition hslot] at hbyte
    obtain ⟨range, htolerated, hcovers⟩ := hdiffer position hposition hbyte
    refine ⟨range, ?_, hcovers⟩
    rw [mem_tolerated_iff_openRanges] at htolerated ⊢
    refine htolerated.imp_right fun h => h.imp_left fun ⟨hignored, hmetadata, _⟩ => ?_
    exact ⟨hignored, hmetadata, hfound range hignored hmetadata⟩

end

/-- What stands in the slots of a code has no influence on the comparison with a candidate that is
read from compiled bytecode, if no slot covers the bytes that mark the metadata section. Two codes
of the same length that have the same bytes at all positions of the candidate but its slots are both
accepted or both refused, whatever is in the slots and behind the candidate. -/
theorem accepts_congr_of_slots {bytecode : Bytecode} {immutables : List CodeRange}
    {candidate : Candidate} (h : Candidate.ofBytecode bytecode immutables = some candidate)
    {policy : MatchPolicy} (hkeeps : policy.KeepsSection candidate) {running other : List UInt8}
    (hlength : running.length = other.length)
    (hagree : ∀ position < candidate.code.length, ¬ policy.Slot candidate position →
      running[position]? = other[position]?) (isCreation : Bool) :
    policy.accepts running candidate isCreation = policy.accepts other candidate isCreation := by
  obtain ⟨-, hsection⟩ := Candidate.ofBytecode_fields h
  have hagree' : ∀ position < candidate.code.length, ¬ policy.Slot candidate position →
      other[position]? = running[position]? :=
    fun position hposition hslot => (hagree position hposition hslot).symm
  exact Bool.eq_iff_iff.mpr ⟨accepts_of_accepts hsection hkeeps hlength hagree,
    accepts_of_accepts hsection hkeeps hlength.symm hagree'⟩

/-- A push of an immutable value in front of a metadata section. Two init codes with other values,
other metadata and other arguments behind them are compared with the same result. -/
theorem accepts_congr_of_slots_of_section :
    ∃ candidate, Candidate.ofBytecode
        ⟨.plain [0x60, 0x00, 0xa1, 0x55, 0x66, 0x00, 0x03], none, [], []⟩ [⟨1, 2⟩] =
          some candidate ∧
      KeepsSection {} candidate ∧
      accepts {} [0x60, 0x2a, 0xa1, 0x11, 0x12, 0x00, 0x03, 0x77] candidate true =
        accepts {} [0x60, 0x2b, 0xa1, 0x21, 0x22, 0x00, 0x03, 0x99] candidate true := by
  have hcandidate : Candidate.ofBytecode
      ⟨.plain [0x60, 0x00, 0xa1, 0x55, 0x66, 0x00, 0x03], none, [], []⟩ [⟨1, 2⟩] =
        some ⟨[0x60, 0x00, 0xa1, 0x55, 0x66, 0x00, 0x03], [], [⟨1, 2⟩], some ⟨2, 7⟩⟩ := rfl
  have hkeeps : KeepsSection {}
      ⟨[0x60, 0x00, 0xa1, 0x55, 0x66, 0x00, 0x03], [], [⟨1, 2⟩], some ⟨2, 7⟩⟩ := by
    rintro - metadata hmetadata
    cases hmetadata
    decide
  refine ⟨_, hcandidate, hkeeps, accepts_congr_of_slots hcandidate hkeeps rfl ?_ true⟩
  intro position hposition hslot
  have hplace : position = 0 ∨ position = 1 ∨ position = 2 ∨ (2 < position ∧ position + 2 < 7) ∨
      position = 5 ∨ position = 6 := by
    have hlt : position < 7 := hposition
    omega
  rcases hplace with rfl | rfl | rfl | ⟨hlow, hhigh⟩ | rfl | rfl
  · rfl
  · exact absurd (.openRange ⟨1, 2⟩ (List.mem_singleton.mpr rfl) (by decide) (by decide)) hslot
  · rfl
  · exact absurd (.metadata ⟨2, 7⟩ rfl rfl hlow hhigh) hslot
  · rfl
  · rfl

/-- The value of a variable in place of the byte that starts the section does have an influence: it
tells whether there is a section. -/
example :
    accepts {} [0xa1, 0x66, 0x00, 0x02]
        ⟨[0xa1, 0x55, 0x00, 0x02], [], [⟨0, 1⟩], some ⟨0, 4⟩⟩ false = true ∧
      accepts {} [0x00, 0x66, 0x00, 0x02]
        ⟨[0xa1, 0x55, 0x00, 0x02], [], [⟨0, 1⟩], some ⟨0, 4⟩⟩ false = false := by
  decide

end MatchPolicy

end CodeAtlas
