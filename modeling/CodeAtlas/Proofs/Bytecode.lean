import CodeAtlas.Bytecode.Candidate

/-!
# Candidates and their ranges

What `Candidate.ofBytecode` takes over from the bytecode, and where the ranges lie that it finds: the
placeholders of an unlinked text, and the metadata section.
-/

namespace CodeAtlas

/-- A range covers the positions from its start up to its stop. -/
theorem CodeRange.covers_iff {range : CodeRange} {position : Nat} :
    range.covers position = true ↔ range.start ≤ position ∧ position < range.stop := by
  unfold covers
  rw [Bool.and_eq_true, decide_eq_true_eq, decide_eq_true_eq]

/-- A range covers none of the positions before its start and from its stop on, and all others. -/
theorem CodeRange.covers_eq_false_iff {range : CodeRange} {position : Nat} :
    range.covers position = false ↔ position < range.start ∨ range.stop ≤ position := by
  unfold covers
  rw [Bool.and_eq_false_iff, decide_eq_false_iff_not, decide_eq_false_iff_not, Nat.not_le,
    Nat.not_lt]

/-- A range for an address in a code. -/
structure CodeRange.FitsAddress (range : CodeRange) (length : Nat) : Prop where
  /-- It is as long as an address. -/
  stop_eq : range.stop = range.start + addressLength
  /-- It lies in the code. -/
  stop_le : range.stop ≤ length

/-- The placeholders of a text lie in its code, behind the code in front. -/
theorem fitsAddress_of_decodeBlocks {position : Nat} {text code : List UInt8}
    {ranges : List CodeRange} (h : decodeBlocks position text = some (code, ranges)) :
    ∀ range ∈ ranges, range.FitsAddress (position + code.length) := by
  fun_induction decodeBlocks position text generalizing code ranges with
  | case1 =>
    cases h
    exact fun range hrange => absurd hrange List.not_mem_nil
  | case2 position rest htext ih =>
    rw [if_pos htext] at h
    obtain ⟨⟨behind, others⟩, hbehind, hwhole⟩ := Option.bind_eq_some_iff.mp h
    cases hwhole
    rw [List.length_append, List.length_replicate, ← Nat.add_assoc]
    exact List.forall_mem_cons.mpr ⟨⟨rfl, Nat.le_add_right _ _⟩, ih hbehind⟩
  | case3 position rest htext =>
    rw [if_neg htext] at h
    cases h
  | case4 => cases h
  | case5 position first hfirst second rest ih =>
    obtain ⟨byte, -, hbyte⟩ := Option.bind_eq_some_iff.mp h
    obtain ⟨⟨behind, others⟩, hbehind, hwhole⟩ := Option.bind_eq_some_iff.mp hbyte
    cases hwhole
    rw [List.length_cons, Nat.add_comm behind.length, ← Nat.add_assoc]
    exact ih hbehind

/-- A code of two bytes or more ends in two bytes. -/
theorem exists_eq_append_pair {code : List UInt8} (h : 2 ≤ code.length) :
    ∃ front high low, code = front ++ [high, low] := by
  have hlast : (code.drop (code.length - 2)).length = 2 := by
    rw [List.length_drop]
    omega
  obtain ⟨high, rest, hrest⟩ := List.exists_cons_of_length_eq_add_one hlast
  rw [hrest] at hlast
  obtain ⟨low, none, hnone⟩ := List.exists_cons_of_length_eq_add_one (Nat.succ.inj hlast)
  rw [hnone] at hlast hrest
  obtain rfl := List.length_eq_zero_iff.mp (Nat.succ.inj (Nat.succ.inj hlast))
  exact ⟨code.take (code.length - 2), high, low, by rw [← hrest, List.take_append_drop]⟩

/-- The last two bytes of a code that ends in two bytes are these. -/
theorem getElem?_append_pair (front : List UInt8) (high low : UInt8) :
    (front ++ [high, low])[(front ++ [high, low]).length - 2]? = some high ∧
      (front ++ [high, low])[(front ++ [high, low]).length - 1]? = some low := by
  have hlength : (front ++ [high, low]).length = front.length + 2 := List.length_append
  have hhigh : front.length + 2 - 2 - front.length = 0 := by omega
  have hlow : front.length + 2 - 1 - front.length = 1 := by omega
  rw [hlength, List.getElem?_append_right (by omega), List.getElem?_append_right (by omega), hhigh,
    hlow]
  exact ⟨rfl, rfl⟩

/-- A code has a metadata section if and only if its last two bytes, the high one first, are the
length of a part in front of them that is there, is not empty and starts a map. The section reaches
from the start of this part to the end of the code. -/
theorem metadataRange_eq_some_iff {code : List UInt8} {range : CodeRange} :
    metadataRange code = some range ↔
      ∃ (high low : UInt8) (length : Nat), length = 256 * high.toNat + low.toNat ∧
        code[code.length - 2]? = some high ∧ code[code.length - 1]? = some low ∧
        0 < length ∧ length + 2 ≤ code.length ∧
        startsMap code[code.length - (length + 2)]? = true ∧
        range = ⟨code.length - (length + 2), code.length⟩ := by
  by_cases hlong : 2 ≤ code.length
  · obtain ⟨front, high, low, rfl⟩ := exists_eq_append_pair hlong
    obtain ⟨hhigh, hlow⟩ := getElem?_append_pair front high low
    unfold metadataRange
    rw [List.reverse_append]
    simp only [List.reverse_cons, List.reverse_nil, List.nil_append, List.cons_append,
      Option.ite_none_right_eq_some, Option.some.injEq]
    rw [hhigh, hlow]
    constructor
    · rintro ⟨⟨hpositive, hfits, hmap⟩, rfl⟩
      exact ⟨high, low, _, rfl, rfl, rfl, hpositive, hfits, hmap, rfl⟩
    · rintro ⟨high', low', length, rfl, hhigh', hlow', hpositive, hfits, hmap, rfl⟩
      cases hhigh'
      cases hlow'
      exact ⟨⟨hpositive, hfits, hmap⟩, rfl⟩
  · constructor
    · intro h
      -- Without two bytes there is no length.
      unfold metadataRange at h
      split at h
      · rename_i hreverse
        have hlength := congrArg List.length hreverse
        rw [List.length_reverse, List.length_cons, List.length_cons] at hlength
        omega
      · cases h
    · rintro ⟨high, low, length, -, -, -, -, hfits, -⟩
      omega

/-- A metadata section reaches the end of the code and has at least the byte that starts its map and
the two bytes of its length. -/
theorem metadataRange_bounds {code : List UInt8} {range : CodeRange}
    (h : metadataRange code = some range) :
    range.start + 3 ≤ range.stop ∧ range.stop = code.length := by
  obtain ⟨high, low, length, -, -, -, hpositive, hfits, -, rfl⟩ := metadataRange_eq_some_iff.mp h
  exact ⟨by dsimp only; omega, rfl⟩

/-- A code that has the byte which starts the metadata section of another code of its length, and the
low byte of the length of the section, has the section if and only if it has the high byte, too. -/
theorem metadataRange_congr_iff {code other : List UInt8} {range : CodeRange}
    (h : metadataRange code = some range) (hlength : other.length = code.length)
    (hstart : other[range.start]? = code[range.start]?)
    (hlast : other[code.length - 1]? = code[code.length - 1]?) :
    metadataRange other = some range ↔ other[range.stop - 2]? = code[range.stop - 2]? := by
  obtain ⟨high, low, length, hsize, hhigh, hlow, hpositive, hfits, hmap, rfl⟩ :=
    metadataRange_eq_some_iff.mp h
  rw [metadataRange_eq_some_iff, hlength]
  constructor
  · rintro ⟨high', low', length', hsize', hhigh', hlow', -, hfits', -, hsame⟩
    -- The section has the same length, and the low byte is the same, so the high byte is.
    have hlengths : length' = length := by
      have := congrArg CodeRange.start hsame
      dsimp only at this
      omega
    have hlows : low' = low := by
      rw [hlast, hlow] at hlow'
      exact (Option.some.inj hlow').symm
    have hhighs : high' = high := by
      rw [← UInt8.toNat_inj]
      rw [hlows] at hsize'
      omega
    dsimp only
    rw [hhigh', hhighs, hhigh]
  · intro hsame
    exact ⟨high, low, length, hsize, hsame.trans hhigh, hlast.trans hlow, hpositive, hfits,
      hstart ▸ hmap, rfl⟩

/-- A candidate has the immutable ranges it is made with and the metadata section of its code. -/
theorem Candidate.ofBytecode_fields {bytecode : Bytecode} {immutables : List CodeRange}
    {candidate : Candidate} (h : ofBytecode bytecode immutables = some candidate) :
    candidate.immutables = immutables ∧ candidate.metadata = metadataRange candidate.code := by
  unfold ofBytecode at h
  split at h
  · cases h
    exact ⟨rfl, rfl⟩
  · obtain ⟨⟨code, placeholders⟩, -, hcandidate⟩ := Option.map_eq_some_iff.mp h
    cases hcandidate
    exact ⟨rfl, rfl⟩

end CodeAtlas
