import CodeAtlas.Proofs.Policy.Order
import CodeAtlas.Proofs.Policy.Section

/-!
# Builds of the same source

Two builds of one source differ in the metadata that the compiler appends. One of them runs and the
other one is compared with it, and these two are not treated alike: the metadata section is located
in the compiled code, by its length, and then only looked for in the running code. It makes no
difference, as what is looked for is a section at the same place. So a code is a form of another one
if and only if they are the same but for their metadata (`MatchPolicy.isFormOf_iff`), and this is an
equivalence (`MatchPolicy.isFormOf_equivalence`).
-/

namespace CodeAtlas

/-- The candidate of a code without library addresses and immutable variables. -/
def Candidate.ofCode (code : List UInt8) : Candidate :=
  ⟨code, [], [], metadataRange code⟩

/-- Codes that are the same but for their metadata are the other way round. -/
theorem SameButMetadata.symm {code other : List UInt8} (h : SameButMetadata code other) :
    SameButMetadata other code := by
  obtain ⟨metadata, hcode, hother, hfront⟩ := sameButMetadata_iff.mp h
  exact sameButMetadata_iff.mpr ⟨metadata, hother, hcode, hfront.symm⟩

/-- Codes that are the same as a third one but for their metadata are the same but for it. -/
theorem SameButMetadata.trans {code other third : List UInt8} (h : SameButMetadata code other)
    (h' : SameButMetadata other third) : SameButMetadata code third := by
  obtain ⟨metadata, hcode, hother, hfront⟩ := sameButMetadata_iff.mp h
  obtain ⟨metadata', hother', hthird, hfront'⟩ := sameButMetadata_iff.mp h'
  -- The code in the middle has one section only, so all three have the same.
  cases hother.symm.trans hother'
  exact sameButMetadata_iff.mpr ⟨metadata, hcode, hthird, hfront.trans hfront'⟩

/-- A code with metadata has bytes. -/
theorem SameButMetadata.ne_nil {code other : List UInt8} (h : SameButMetadata code other) :
    code ≠ [] := by
  obtain ⟨front, part, -, high, low, rfl, -⟩ := h
  exact List.append_ne_nil_of_right_ne_nil _
    (List.append_ne_nil_of_right_ne_nil _ (List.cons_ne_nil _ _))

namespace MatchPolicy

/-- Running code is a form of compiled code: whatever else the compiler puts out for the code, as
long as there are no library addresses and immutable variables, it is accepted as deployed code. -/
def IsFormOf (policy : MatchPolicy) (running compiled : List UInt8) : Prop :=
  ∀ bytecode : Bytecode, bytecode.object = .plain compiled → bytecode.linkReferences = [] →
    ∃ candidate, Candidate.ofBytecode bytecode [] = some candidate ∧
      policy.accepts running candidate false = true

/-- Only the code matters for what is a form of it. -/
theorem isFormOf_iff_accepts {policy : MatchPolicy} {running compiled : List UInt8} :
    policy.IsFormOf running compiled ↔
      policy.accepts running (.ofCode compiled) false = true := by
  constructor
  · intro h
    obtain ⟨candidate, hcandidate, haccepts⟩ := h ⟨.plain compiled, none, [], []⟩ rfl rfl
    cases hcandidate
    exact haccepts
  · intro h bytecode hobject hlinks
    refine ⟨.ofCode compiled, ?_, h⟩
    unfold Candidate.ofBytecode
    rw [hobject, hlinks]
    rfl

section

variable {policy : MatchPolicy} {running compiled : List UInt8}

/-- Without library addresses, immutable variables and the start of a library, only the metadata
section is tolerated. -/
theorem mem_tolerated_ofCode_iff (hlibrary : policy.libraryAddressPrefix = false)
    {range : CodeRange} :
    range ∈ policy.tolerated (.ofCode compiled) running ↔
      policy.ignoreMetadata = true ∧ metadataRange compiled = some range ∧
        hasMetadataAt running compiled range = true := by
  rw [mem_tolerated_iff, hlibrary]
  simp [Candidate.ofCode]

/-- Deployed code that is accepted is as long as the compiled code. -/
theorem length_eq_of_accepts (haccepts : policy.accepts running (.ofCode compiled) false = true) :
    running.length = compiled.length := by
  obtain ⟨-, -, hlength, -⟩ := accepts_iff.mp haccepts
  exact hlength.resolve_right (nofun ∘ And.left)

/-- Where accepted code differs from compiled code, metadata does not matter, and both have the same
section, which starts there or earlier. -/
theorem exists_section_of_accepts (hlibrary : policy.libraryAddressPrefix = false)
    (haccepts : policy.accepts running (.ofCode compiled) false = true) {position : Nat}
    (hposition : position < compiled.length) (hbyte : compiled[position]? ≠ running[position]?) :
    policy.ignoreMetadata = true ∧ ∃ metadata, metadataRange compiled = some metadata ∧
      metadataRange running = some metadata ∧ metadata.start ≤ position := by
  obtain ⟨-, -, -, hdiffer⟩ := accepts_iff.mp haccepts
  obtain ⟨metadata, htolerated, hcovers⟩ := hdiffer position hposition hbyte
  obtain ⟨hignored, hcompiled, hfound⟩ := (mem_tolerated_ofCode_iff hlibrary).mp htolerated
  have hlength := length_eq_of_accepts haccepts
  have hrunning := (hasMetadataAt_iff_metadataRange hcompiled hlength).mp hfound
  exact ⟨hignored, metadata, hcompiled, hrunning, (CodeRange.covers_iff.mp hcovers).1⟩

/-- Code that differs from compiled code and is accepted is the same but for its metadata. -/
theorem sameButMetadata_of_accepts (hlibrary : policy.libraryAddressPrefix = false)
    (haccepts : policy.accepts running (.ofCode compiled) false = true)
    (hne : running ≠ compiled) :
    policy.ignoreMetadata = true ∧ SameButMetadata running compiled := by
  have hlength := length_eq_of_accepts haccepts
  obtain ⟨place, hplace, hbyte⟩ :
      ∃ place < compiled.length, compiled[place]? ≠ running[place]? := by
    by_contra hnone
    refine hne (List.ext_getElem? fun place => ?_)
    by_cases hplace : place < compiled.length
    · exact (not_not.mp fun hbyte => hnone ⟨place, hplace, hbyte⟩).symm
    · rw [List.getElem?_eq_none (by omega), List.getElem?_eq_none (by omega)]
  obtain ⟨hignored, metadata, hcompiled, hrunning, -⟩ :=
    exists_section_of_accepts hlibrary haccepts hplace hbyte
  obtain ⟨hlong, hstop⟩ := metadataRange_bounds hcompiled
  refine ⟨hignored, sameButMetadata_iff.mpr ⟨metadata, hrunning, hcompiled, ?_⟩⟩
  -- A difference in front of the section would be in a section that starts earlier.
  refine List.ext_getElem? fun position => ?_
  by_cases hfront : position < metadata.start
  · rw [List.getElem?_take_of_lt hfront, List.getElem?_take_of_lt hfront]
    by_contra hdifferent
    obtain ⟨-, metadata', hcompiled', -, hstart⟩ :=
      exists_section_of_accepts hlibrary haccepts (by omega) (Ne.symm hdifferent)
    cases hcompiled.symm.trans hcompiled'
    exact absurd hstart (Nat.not_le.mpr hfront)
  · rw [List.getElem?_take_eq_none (Nat.le_of_not_lt hfront),
      List.getElem?_take_eq_none (Nat.le_of_not_lt hfront)]

/-- Code that is the same as compiled code but for its metadata is accepted if metadata does not
matter. -/
theorem accepts_of_sameButMetadata (hignored : policy.ignoreMetadata = true)
    (h : SameButMetadata running compiled) :
    policy.accepts running (.ofCode compiled) false = true := by
  obtain ⟨metadata, hrunning, hcompiled, hfront⟩ := sameButMetadata_iff.mp h
  obtain ⟨-, hstop⟩ := metadataRange_bounds hcompiled
  obtain ⟨-, hstop'⟩ := metadataRange_bounds hrunning
  have hlength : running.length = compiled.length := hstop'.symm.trans hstop
  have hfound := (hasMetadataAt_iff_metadataRange hcompiled hlength).mpr hrunning
  refine accepts_iff.mpr ⟨h.symm.ne_nil, Nat.le_of_eq hlength.symm, .inl hlength, ?_⟩
  intro position hposition hbyte
  refine ⟨metadata, mem_tolerated_iff.mpr
    (.inr (.inr (.inl ⟨hignored, hcompiled, hfound⟩))), CodeRange.covers_iff.mpr ⟨?_, ?_⟩⟩
  · -- In front of the section nothing differs.
    by_contra hfrontal
    have hlt : position < metadata.start := Nat.lt_of_not_le hfrontal
    have hsame : compiled[position]? = running[position]? := by
      rw [← List.getElem?_take_of_lt hlt, ← hfront, List.getElem?_take_of_lt hlt]
    exact hbyte hsame
  · rw [hstop]
    exact hposition

/-- A code is a form of another one if it has bytes and is the same, or if metadata does not matter
and it is the same but for that. -/
theorem isFormOf_iff (hlibrary : policy.libraryAddressPrefix = false) :
    policy.IsFormOf running compiled ↔
      (compiled ≠ [] ∧ running = compiled) ∨
      (policy.ignoreMetadata = true ∧ SameButMetadata running compiled) := by
  rw [isFormOf_iff_accepts]
  constructor
  · intro haccepts
    obtain ⟨hbytes, -⟩ := accepts_iff.mp haccepts
    by_cases hsame : running = compiled
    · exact .inl ⟨hbytes, hsame⟩
    · exact .inr (sameButMetadata_of_accepts hlibrary haccepts hsame)
  · rintro (⟨hbytes, rfl⟩ | ⟨hignored, h⟩)
    · exact accepts_self policy hbytes false
    · exact accepts_of_sameButMetadata hignored h

end

/-- For every policy under which a library has to start as it was compiled, being a form of is an
equivalence of codes that have bytes: it does not matter which of two builds is deployed and which
is compiled. If metadata does not matter, the forms of a code are the code itself and the codes that
are the same up to metadata of the same length; and if it does, there are no others. -/
theorem isFormOf_equivalence {policy : MatchPolicy}
    (hlibrary : policy.libraryAddressPrefix = false) :
    (Equivalence fun running compiled : { code : List UInt8 // code ≠ [] } =>
      policy.IsFormOf running compiled) ∧
    (policy.ignoreMetadata = true → ∀ running compiled, running ≠ [] → compiled ≠ [] →
      (policy.IsFormOf running compiled ↔
        running = compiled ∨ SameButMetadata running compiled)) ∧
    (policy.ignoreMetadata = false → ∀ running compiled, running ≠ [] → compiled ≠ [] →
      (policy.IsFormOf running compiled ↔ running = compiled)) := by
  refine ⟨⟨fun code => ?_, fun h => ?_, fun h h' => ?_⟩,
    fun hignored running compiled _ hbytes => ?_, fun hmatters running compiled _ hbytes => ?_⟩
  · exact (isFormOf_iff hlibrary).mpr (.inl ⟨code.property, rfl⟩)
  · rw [isFormOf_iff hlibrary] at h ⊢
    rcases h with ⟨hbytes, hsame⟩ | ⟨hignored, hsection⟩
    · exact .inl ⟨hsame ▸ hbytes, hsame.symm⟩
    · exact .inr ⟨hignored, hsection.symm⟩
  · rw [isFormOf_iff hlibrary] at h h' ⊢
    rcases h with ⟨-, hsame⟩ | ⟨hignored, hsection⟩
    · rw [hsame]
      exact h'
    · rcases h' with ⟨-, hsame'⟩ | ⟨-, hsection'⟩
      · rw [← hsame']
        exact .inr ⟨hignored, hsection⟩
      · exact .inr ⟨hignored, hsection.trans hsection'⟩
  · rw [isFormOf_iff hlibrary, and_iff_right hbytes, and_iff_right hignored]
  · rw [isFormOf_iff hlibrary, and_iff_right hbytes, hmatters]
    exact or_iff_left (nofun ∘ And.left)

/-- A push in front of two pieces of metadata of two bytes each. The first build is a form of the
second one as they are the same but for that, and so the second one is a form of the first. -/
theorem isFormOf_equivalence_of_two_builds :
    let policy : MatchPolicy := { libraryAddressPrefix := false }
    policy.libraryAddressPrefix = false ∧
    policy.IsFormOf [0x60, 0xa1, 0x55, 0x00, 0x02] [0x60, 0xa4, 0x66, 0x00, 0x02] ∧
    policy.IsFormOf [0x60, 0xa4, 0x66, 0x00, 0x02] [0x60, 0xa1, 0x55, 0x00, 0x02] := by
  intro policy
  have hlibrary : policy.libraryAddressPrefix = false := rfl
  obtain ⟨hequivalence, hforms, -⟩ := isFormOf_equivalence hlibrary
  have hsection : SameButMetadata [0x60, 0xa1, 0x55, 0x00, 0x02] [0x60, 0xa4, 0x66, 0x00, 0x02] :=
    ⟨[0x60], [0xa1, 0x55], [0xa4, 0x66], 0x00, 0x02, rfl, rfl,
      ⟨⟨0xa1, rfl, by decide, by decide⟩, rfl⟩, ⟨⟨0xa4, rfl, by decide, by decide⟩, rfl⟩⟩
  have hform : policy.IsFormOf [0x60, 0xa1, 0x55, 0x00, 0x02] [0x60, 0xa4, 0x66, 0x00, 0x02] :=
    (hforms rfl _ _ (List.cons_ne_nil _ _) (List.cons_ne_nil _ _)).mpr (.inr hsection)
  exact ⟨hlibrary, hform, hequivalence.symm (x := ⟨_, List.cons_ne_nil _ _⟩)
    (y := ⟨_, List.cons_ne_nil _ _⟩) hform⟩

end MatchPolicy

end CodeAtlas
