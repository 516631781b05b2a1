import CodeAtlas.Proofs.Policy
import CodeAtlas.Proofs.Policy.Slices

/-!
# Which differences are tolerated

Tolerant comparison goes through five switches, ranges that may overlap or reach behind the code,
and a metadata section that is looked for in the running code as well. `MatchPolicy.Tolerates` says
of one position why any byte will do there, with a case for each reason, and
`MatchPolicy.accepts_iff_tolerates` says that nothing else counts: for every candidate that is read
from compiled bytecode the mask can be written without leaving it, and running code is accepted if
and only if its length is right and each of its differences has a reason.
-/

namespace CodeAtlas

/-! ## The metadata section of running code -/

/-- Running code has the two length bytes of a code at the end of a range, and the start of a map at
the start of the range. -/
structure RepeatsSection (running code : List UInt8) (range : CodeRange) : Prop where
  /-- The byte that starts a map of one to five entries. -/
  start : ∃ byte, running[range.start]? = some byte ∧ 0xa1 ≤ byte ∧ byte ≤ 0xa5
  /-- The high byte of the length. -/
  high : running[range.stop - 2]? = code[range.stop - 2]?
  /-- The low byte of the length. -/
  low : running[range.stop - 1]? = code[range.stop - 1]?

/-- A byte starts a map if it is there and one of the five that do. -/
theorem startsMap_iff {byte? : Option UInt8} :
    startsMap byte? = true ↔ ∃ byte, byte? = some byte ∧ 0xa1 ≤ byte ∧ byte ≤ 0xa5 := by
  cases byte? with
  | none => simp [startsMap]
  | some byte => simp [startsMap]

/-- The two bytes in front of a position are a slice, if the code reaches the position. -/
theorem slice_two {code : List UInt8} {stop : Nat} (hlow : 2 ≤ stop) (hhigh : stop ≤ code.length) :
    slice code ⟨stop - 2, stop⟩ = some [code[stop - 2], code[stop - 1]] := by
  have hfirst : code.drop (stop - 2) = code[stop - 2] :: code.drop (stop - 1) := by
    have hnext : stop - 2 + 1 = stop - 1 := by omega
    rw [List.drop_eq_getElem_cons, hnext]
  have hsecond : code.drop (stop - 1) = code[stop - 1] :: code.drop (stop - 1 + 1) :=
    List.drop_eq_getElem_cons (by omega)
  have hcount : stop - (stop - 2) = 2 := by omega
  unfold slice
  rw [if_pos ⟨Nat.sub_le _ _, hhigh⟩, List.drop_take, hcount, hfirst, hsecond]
  rfl

/-- Running code is found to have a metadata section where the code of a candidate has one if and
only if it repeats the length and starts a map. -/
theorem hasMetadataAt_iff {running code : List UInt8} {range : CodeRange} (hlow : 2 ≤ range.stop)
    (hhigh : range.stop ≤ code.length) :
    hasMetadataAt running code range = true ↔ RepeatsSection running code range := by
  have hcode := slice_two hlow hhigh
  have hcodeHigh : code[range.stop - 2]? = some code[range.stop - 2] :=
    List.getElem?_eq_getElem (by omega)
  have hcodeLow : code[range.stop - 1]? = some code[range.stop - 1] :=
    List.getElem?_eq_getElem (by omega)
  unfold hasMetadataAt
  rw [Bool.and_eq_true, startsMap_iff]
  by_cases hreaches : range.stop ≤ running.length
  · have hrunningHigh : running[range.stop - 2]? = some running[range.stop - 2] :=
      List.getElem?_eq_getElem (by omega)
    have hrunningLow : running[range.stop - 1]? = some running[range.stop - 1] :=
      List.getElem?_eq_getElem (by omega)
    simp only [slice_two hlow hreaches, hcode, beq_iff_eq, Option.some.injEq, List.cons.injEq,
      and_true]
    constructor
    · rintro ⟨hstart, hhighByte, hlowByte⟩
      exact ⟨hstart, by rw [hcodeHigh, hrunningHigh, hhighByte],
        by rw [hcodeLow, hrunningLow, hlowByte]⟩
    · rintro ⟨hstart, hhighByte, hlowByte⟩
      rw [hcodeHigh, hrunningHigh] at hhighByte
      rw [hcodeLow, hrunningLow] at hlowByte
      exact ⟨hstart, (Option.some.inj hhighByte).symm, (Option.some.inj hlowByte).symm⟩
  · -- The running code ends in front of the length.
    have hnone : slice running ⟨range.stop - 2, range.stop⟩ = none := by
      unfold slice
      exact if_neg fun hbounds => hreaches hbounds.2
    simp only [hnone]
    constructor
    · rintro ⟨-, hfalse⟩
      cases hfalse
    · intro hrepeats
      have hlast := hrepeats.low
      rw [hcodeLow, List.getElem?_eq_none (by omega)] at hlast
      cases hlast

/-! ## Reasons -/

namespace MatchPolicy

/-- Any byte of the running code will do at a position of a candidate. -/
inductive Tolerates (policy : MatchPolicy) (candidate : Candidate) (running : List UInt8)
    (position : Nat) : Prop
  /-- The position is in the address of a library, and these addresses do not matter. -/
  | linkReference (range : CodeRange) (ignored : policy.ignoreLinkReferences = true)
      (isRange : range ∈ candidate.linkReferences) (low : range.start ≤ position)
      (high : position < range.stop)
  /-- The position is in the value of an immutable variable, and these values do not matter. -/
  | immutable (range : CodeRange) (ignored : policy.ignoreImmutables = true)
      (isRange : range ∈ candidate.immutables) (low : range.start ≤ position)
      (high : position < range.stop)
  /-- The position is in the metadata section, metadata does not matter, and the running code has a
  section there, too. -/
  | metadata (range : CodeRange) (ignored : policy.ignoreMetadata = true)
      (isRange : candidate.metadata = some range) (low : range.start ≤ position)
      (high : position < range.stop) (repeated : RepeatsSection running candidate.code range)
  /-- The position is in the address that a library pushes first, this address does not matter, and
  the candidate starts as a library. -/
  | libraryAddress (ignored : policy.libraryAddressPrefix = true)
      (isLibrary : 0x73 :: List.replicate 20 0 ++ [0x30, 0x14] <+: candidate.code)
      (low : 1 ≤ position) (high : position ≤ 20)

/-- The positions with a reason are those in a tolerated range. -/
theorem exists_tolerated_iff {policy : MatchPolicy} {bytecode : Bytecode}
    {immutables : List CodeRange} {candidate : Candidate}
    (h : Candidate.ofBytecode bytecode immutables = some candidate) {running : List UInt8}
    {position : Nat} :
    (∃ range ∈ policy.tolerated candidate running, range.covers position = true) ↔
      policy.Tolerates candidate running position := by
  -- The length of a section is at the end of the code, so the code has both of its bytes.
  have hsection : ∀ range, candidate.metadata = some range →
      (hasMetadataAt running candidate.code range = true ↔
        RepeatsSection running candidate.code range) := by
    intro range hrange
    rw [(Candidate.ofBytecode_fields h).2] at hrange
    obtain ⟨hstart, hstop⟩ := metadataRange_bounds hrange
    exact hasMetadataAt_iff (by omega) (by omega)
  constructor
  · rintro ⟨range, hrange, hposition⟩
    obtain ⟨hlow, hhigh⟩ := CodeRange.covers_iff.mp hposition
    rcases mem_tolerated_iff.mp hrange with ⟨hignored, hlink⟩ | ⟨hignored, himmutable⟩ |
      ⟨hignored, hsome, hfound⟩ | ⟨hignored, hlibrary, rfl⟩
    · exact .linkReference range hignored hlink hlow hhigh
    · exact .immutable range hignored himmutable hlow hhigh
    · exact .metadata range hignored hsome hlow hhigh ((hsection range hsome).mp hfound)
    · exact .libraryAddress hignored hlibrary hlow (Nat.le_of_lt_succ hhigh)
  · intro htolerates
    cases htolerates with
    | linkReference range hignored hrange hlow hhigh =>
      exact ⟨range, mem_tolerated_iff.mpr (.inl ⟨hignored, hrange⟩),
        CodeRange.covers_iff.mpr ⟨hlow, hhigh⟩⟩
    | immutable range hignored hrange hlow hhigh =>
      exact ⟨range, mem_tolerated_iff.mpr (.inr (.inl ⟨hignored, hrange⟩)),
        CodeRange.covers_iff.mpr ⟨hlow, hhigh⟩⟩
    | metadata range hignored hrange hlow hhigh hrepeats =>
      have hfound := (hsection range hrange).mpr hrepeats
      exact ⟨range, mem_tolerated_iff.mpr (.inr (.inr (.inl ⟨hignored, hrange, hfound⟩))),
        CodeRange.covers_iff.mpr ⟨hlow, hhigh⟩⟩
    | libraryAddress hignored hlibrary hlow hhigh =>
      exact ⟨CodeAtlas.libraryAddress,
        mem_tolerated_iff.mpr (.inr (.inr (.inr ⟨hignored, hlibrary, rfl⟩))),
        CodeRange.covers_iff.mpr ⟨hlow, Nat.lt_succ_of_le hhigh⟩⟩

/-- For every candidate that is read from compiled bytecode, with library addresses and immutable
variables at any offsets, and for every policy, running code and kind of code, the mask of the
comparison can be written without leaving it or the code. The running code is accepted if and only
if the candidate has bytes, the running code is as long as it, or longer where arguments of a
constructor may follow, and each position of the candidate at which the two differ has a reason to
be tolerated. -/
theorem accepts_iff_tolerates {object : CodeObject} {sourceMap : Option String}
    {generated : List GeneratedSource} {links immutables : List Offsets} {candidate : Candidate}
    (h : Candidate.ofBytecode ⟨object, sourceMap, generated, links.map Offsets.range⟩
      (immutables.map Offsets.range) = some candidate)
    (policy : MatchPolicy) (running : List UInt8) (isCreation : Bool) :
    policy.maskInPlace candidate running = some (policy.mask candidate running) ∧
    (policy.accepts running candidate isCreation = true ↔
      candidate.code ≠ [] ∧
      (running.length = candidate.code.length ∨ (candidate.code.length < running.length ∧
        isCreation = true ∧ policy.allowConstructorArgs = true)) ∧
      ∀ position < candidate.code.length, running[position]? ≠ candidate.code[position]? →
        policy.Tolerates candidate running position) := by
  have hranges : ∀ offsets : List Offsets, ∀ range ∈ offsets.map Offsets.range,
      range.IsOrdered := by
    intro offsets range hrange
    obtain ⟨part, -, rfl⟩ := List.mem_map.mp hrange
    exact part.isOrdered_range
  refine ⟨maskInPlace_eq (Candidate.isOrdered_of_ofBytecode h (hranges links) (hranges immutables))
    policy running, ?_⟩
  rw [accepts_iff]
  refine and_congr_right fun _ => ?_
  rw [← and_assoc]
  refine and_congr ?_ (forall₂_congr fun position _ => ?_)
  · constructor
    · rintro ⟨hle, hsame | harguments⟩
      · exact .inl hsame
      · rcases Nat.eq_or_lt_of_le hle with hsame | hlt
        · exact .inl hsame.symm
        · exact .inr ⟨hlt, harguments⟩
    · rintro (hsame | ⟨hlt, harguments⟩)
      · exact ⟨by omega, .inl hsame⟩
      · exact ⟨by omega, .inr harguments⟩
  · rw [exists_tolerated_iff h]
    exact imp_congr_left ⟨Ne.symm, Ne.symm⟩

/-- A push of an immutable value in front of a metadata section, with a library address far behind
the code. Another value and another section are accepted, for reasons that are not the library
address, and the mask stays in the code. -/
theorem accepts_iff_tolerates_of_section :
    ∃ candidate, Candidate.ofBytecode
        ⟨.plain [0x60, 0x00, 0xa1, 0x55, 0x00, 0x02], none, [],
          [⟨4000000000, 4000000000⟩].map Offsets.range⟩ ([⟨1, 1⟩].map Offsets.range) =
          some candidate ∧
      maskInPlace {} candidate [0x60, 0x2a, 0xa2, 0x66, 0x00, 0x02] =
        some (mask {} candidate [0x60, 0x2a, 0xa2, 0x66, 0x00, 0x02]) ∧
      accepts {} [0x60, 0x2a, 0xa2, 0x66, 0x00, 0x02] candidate false = true := by
  have hcandidate : Candidate.ofBytecode
      ⟨.plain [0x60, 0x00, 0xa1, 0x55, 0x00, 0x02], none, [],
        [⟨4000000000, 4000000000⟩].map Offsets.range⟩ ([⟨1, 1⟩].map Offsets.range) =
        some ⟨[0x60, 0x00, 0xa1, 0x55, 0x00, 0x02], [⟨4000000000, 8000000000⟩], [⟨1, 2⟩],
          some ⟨2, 6⟩⟩ := rfl
  obtain ⟨hmask, haccepts⟩ :=
    accepts_iff_tolerates hcandidate {} [0x60, 0x2a, 0xa2, 0x66, 0x00, 0x02] false
  refine ⟨_, hcandidate, hmask, haccepts.mpr ⟨List.cons_ne_nil _ _, .inl rfl, ?_⟩⟩
  have hsection : RepeatsSection [0x60, 0x2a, 0xa2, 0x66, 0x00, 0x02]
      [0x60, 0x00, 0xa1, 0x55, 0x00, 0x02] ⟨2, 6⟩ :=
    ⟨⟨0xa2, rfl, by decide, by decide⟩, rfl, rfl⟩
  intro position hposition hdiffer
  have hplace : position = 0 ∨ position = 1 ∨ 2 ≤ position := by omega
  rcases hplace with rfl | rfl | hbehind
  · exact absurd rfl hdiffer
  · exact .immutable ⟨1, 2⟩ rfl (List.mem_singleton.mpr rfl) (by decide) (by decide)
  · exact .metadata ⟨2, 6⟩ rfl rfl hbehind hposition hsection

end MatchPolicy

end CodeAtlas
