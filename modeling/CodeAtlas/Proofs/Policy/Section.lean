import CodeAtlas.Proofs.Policy.Tolerance

/-!
# Metadata sections

Two procedures look for the metadata that a compiler appends to a code: `metadataRange` takes the
last two bytes for a length and goes back by it, and `hasMetadataAt` looks into running code at a
place that is known from another one. They agree on codes of the same length
(`hasMetadataAt_iff_metadataRange`).

What they find is said without positions by `IsMetadata`: a code has a section if and only if it
ends in metadata and the length of it (`metadataRange_append`, `exists_of_metadataRange`). Two codes
are the same but for their metadata if and only if their sections are at the same place, with the
same bytes in front (`sameButMetadata_iff`).
-/

namespace CodeAtlas

/-! ## The bytes that mark a section -/

/-- The positions of a metadata section that tell whether a code has one: the byte that starts its
map and the two bytes of its length. -/
def CodeRange.marks (metadata : CodeRange) : List Nat :=
  [metadata.start, metadata.stop - 2, metadata.stop - 1]

section

variable {running other code : List UInt8} {metadata : CodeRange}

/-- Codes with the same bytes there both have the section or both do not. -/
theorem RepeatsSection.congr
    (hmarks : ∀ position ∈ metadata.marks, running[position]? = other[position]?)
    (h : RepeatsSection running code metadata) : RepeatsSection other code metadata := by
  have hstart := hmarks metadata.start (by simp [CodeRange.marks])
  have hhigh := hmarks (metadata.stop - 2) (by simp [CodeRange.marks])
  have hlow := hmarks (metadata.stop - 1) (by simp [CodeRange.marks])
  exact ⟨hstart ▸ h.start, hhigh ▸ h.high, hlow ▸ h.low⟩

/-- The positions that tell whether a code has a metadata section are in the code. -/
theorem lt_length_of_mem_marks (h : metadataRange code = some metadata) {position : Nat}
    (hposition : position ∈ metadata.marks) : position < code.length := by
  obtain ⟨hlong, hstop⟩ := metadataRange_bounds h
  simp only [CodeRange.marks, List.mem_cons, List.not_mem_nil, or_false] at hposition
  omega

/-- A length is written with two bytes in one way only. -/
theorem eq_of_length_eq {high low high' low' : UInt8}
    (h : 256 * high.toNat + low.toNat = 256 * high'.toNat + low'.toNat) :
    high = high' ∧ low = low' := by
  have hlow : low.toNat < 256 := low.toNat_lt
  have hlow' : low'.toNat < 256 := low'.toNat_lt
  exact ⟨UInt8.toNat_inj.mp (by omega), UInt8.toNat_inj.mp (by omega)⟩

/-- Running code as long as a code has the metadata section of the code if and only if that is the
section which is found in it. -/
theorem metadataRange_eq_some_iff_repeatsSection (h : metadataRange code = some metadata)
    (hlength : running.length = code.length) :
    metadataRange running = some metadata ↔ RepeatsSection running code metadata := by
  obtain ⟨high, low, length, hsize, hhigh, hlow, hpositive, hfits, hmap, rfl⟩ :=
    metadataRange_eq_some_iff.mp h
  rw [metadataRange_eq_some_iff, hlength]
  constructor
  · rintro ⟨high', low', length', hsize', hhigh', hlow', -, hfits', hmap', hsame⟩
    -- Sections at the same place have the same length, and so the same two bytes that give it.
    have hlengths : length' = length := by
      have hstart := congrArg CodeRange.start hsame
      dsimp only at hstart
      omega
    obtain ⟨rfl, rfl⟩ : high = high' ∧ low = low' := eq_of_length_eq (by omega)
    rw [hlengths] at hmap'
    exact ⟨startsMap_iff.mp hmap', hhigh'.trans hhigh.symm, hlow'.trans hlow.symm⟩
  · rintro ⟨hstart, hhigh', hlow'⟩
    exact ⟨high, low, length, hsize, hhigh'.trans hhigh, hlow'.trans hlow, hpositive, hfits,
      startsMap_iff.mpr hstart, rfl⟩

/-- A section that is known from a code is looked for in the bytes that mark it. -/
theorem hasMetadataAt_iff_repeatsSection (h : metadataRange code = some metadata) :
    hasMetadataAt running code metadata = true ↔ RepeatsSection running code metadata := by
  obtain ⟨hlong, hstop⟩ := metadataRange_bounds h
  exact hasMetadataAt_iff (by omega) (by omega)

/-- In running code as long as the code it is known from, a section is found where it is looked for
if and only if the running code by itself has it. -/
theorem hasMetadataAt_iff_metadataRange (h : metadataRange code = some metadata)
    (hlength : running.length = code.length) :
    hasMetadataAt running code metadata = true ↔ metadataRange running = some metadata :=
  (hasMetadataAt_iff_repeatsSection h).trans
    (metadataRange_eq_some_iff_repeatsSection h hlength).symm

/-- A code has its own metadata section. -/
theorem repeatsSection_self (h : metadataRange code = some metadata) :
    RepeatsSection code code metadata :=
  (metadataRange_eq_some_iff_repeatsSection h rfl).mp h

end

/-! ## Metadata and its length -/

/-- A part of a code is metadata, and two bytes are its length. -/
structure IsMetadata (part : List UInt8) (high low : UInt8) : Prop where
  /-- It starts a map of one to five entries. -/
  start : ∃ first, part.head? = some first ∧ 0xa1 ≤ first ∧ first ≤ 0xa5
  /-- The high byte of its length comes first. -/
  length : part.length = 256 * high.toNat + low.toNat

/-- Metadata has bytes. -/
theorem IsMetadata.length_pos {part : List UInt8} {high low : UInt8}
    (h : IsMetadata part high low) : 0 < part.length := by
  obtain ⟨first, hfirst, -⟩ := h.start
  exact List.length_pos_iff.mpr fun hnil => by rw [hnil] at hfirst; cases hfirst

/-- In a code that ends in metadata and its length, they are found to be the section. -/
theorem metadataRange_append (front : List UInt8) {part : List UInt8} {high low : UInt8}
    (h : IsMetadata part high low) :
    metadataRange (front ++ (part ++ [high, low])) =
      some ⟨front.length, (front ++ (part ++ [high, low])).length⟩ := by
  have hpositive := h.length_pos
  have hlength : (front ++ (part ++ [high, low])).length = front.length + part.length + 2 := by
    rw [List.length_append, List.length_append, ← Nat.add_assoc]
    rfl
  have hstart : front.length + part.length + 2 - (part.length + 2) = front.length := by omega
  obtain ⟨hhigh, hlow⟩ := getElem?_append_pair (front ++ part) high low
  rw [List.append_assoc] at hhigh hlow
  refine metadataRange_eq_some_iff.mpr
    ⟨high, low, part.length, h.length, hhigh, hlow, hpositive, by omega, ?_, ?_⟩
  · rw [hlength, hstart, List.getElem?_append_right (Nat.le_refl _), Nat.sub_self,
      List.getElem?_append_left hpositive, ← List.head?_eq_getElem?]
    exact startsMap_iff.mpr h.start
  · rw [hlength, hstart]

/-- A code with a metadata section ends in metadata and its length. -/
theorem exists_of_metadataRange {code : List UInt8} {metadata : CodeRange}
    (h : metadataRange code = some metadata) :
    ∃ front part high low, code = front ++ (part ++ [high, low]) ∧ IsMetadata part high low ∧
      metadata = ⟨front.length, code.length⟩ := by
  obtain ⟨high, low, length, hsize, hhigh, hlow, hpositive, hfits, hmap, rfl⟩ :=
    metadataRange_eq_some_iff.mp h
  -- The code without its length is cut where the metadata starts.
  obtain ⟨body, high', low', rfl⟩ := exists_eq_append_pair (by omega : 2 ≤ code.length)
  have hlength : (body ++ [high', low']).length = body.length + 2 := List.length_append
  have hstart : body.length + 2 - (length + 2) = body.length - length := by omega
  obtain ⟨hhigh', hlow'⟩ := getElem?_append_pair body high' low'
  cases hhigh'.symm.trans hhigh
  cases hlow'.symm.trans hlow
  rw [hlength, hstart, List.getElem?_append_left (by omega), startsMap_iff] at hmap
  refine ⟨body.take (body.length - length), body.drop (body.length - length), high, low, ?_,
    ⟨?_, ?_⟩, ?_⟩
  · rw [← List.append_assoc, List.take_append_drop]
  · rw [List.head?_drop]
    exact hmap
  · rw [List.length_drop]
    omega
  · rw [hlength, List.length_take, hstart, Nat.min_eq_left (Nat.sub_le _ _)]

/-! ## Codes that are the same but for their metadata -/

/-- Two codes are the same up to where metadata starts in both, and the metadata has the same
length. -/
def SameButMetadata (code other : List UInt8) : Prop :=
  ∃ front part part' high low, code = front ++ (part ++ [high, low]) ∧
    other = front ++ (part' ++ [high, low]) ∧ IsMetadata part high low ∧ IsMetadata part' high low

/-- Codes are the same but for their metadata if and only if their sections are at the same place
and the same bytes are in front. -/
theorem sameButMetadata_iff {code other : List UInt8} :
    SameButMetadata code other ↔ ∃ metadata, metadataRange code = some metadata ∧
      metadataRange other = some metadata ∧
      code.take metadata.start = other.take metadata.start := by
  constructor
  · rintro ⟨front, part, part', high, low, rfl, rfl, hpart, hpart'⟩
    have hlength : (front ++ (part ++ [high, low])).length =
        (front ++ (part' ++ [high, low])).length := by
      rw [List.length_append, List.length_append, List.length_append, List.length_append,
        hpart.length, hpart'.length]
    refine ⟨_, metadataRange_append front hpart, ?_, ?_⟩
    · rw [hlength]
      exact metadataRange_append front hpart'
    · rw [List.take_left, List.take_left]
  · rintro ⟨metadata, hcode, hother, hfront⟩
    obtain ⟨front, part, high, low, rfl, hpart, rfl⟩ := exists_of_metadataRange hcode
    obtain ⟨front', part', high', low', rfl, hpart', hsame⟩ := exists_of_metadataRange hother
    obtain ⟨hstart, hstop⟩ := CodeRange.mk.injEq .. ▸ hsame
    dsimp only at hfront
    rw [List.take_left, hstart, List.take_left] at hfront
    subst hfront
    -- The metadata of both has the same length, so the bytes that give it are the same.
    rw [List.length_append, List.length_append, List.length_append, List.length_append] at hstop
    obtain ⟨rfl, rfl⟩ : high = high' ∧ low = low' := by
      refine eq_of_length_eq ?_
      rw [← hpart.length, ← hpart'.length]
      have hpair : [high, low].length = [high', low'].length := rfl
      omega
    exact ⟨front, part, part', high, low, rfl, rfl, hpart, hpart'⟩

end CodeAtlas
