import CodeAtlas.Proofs.Bytecode
import CodeAtlas.Policy

/-!
# Masks written slice by slice

A mask can be written in place: it starts with `false` everywhere, and the slice of each tolerated
range is overwritten. A slice has to lie in the mask with its ends in order, and the bytes that show
the start of a library have to be there. `MatchPolicy.maskInPlace` is this procedure, which comes to
nothing at the first slice or byte that is out of range.

The ranges of a candidate are clipped to its code, whatever the offsets are, and their ends are in
order (`Candidate.isOrdered_of_ofBytecode`). So the procedure never comes to nothing, and what it
writes is the mask of the comparison (`MatchPolicy.maskInPlace_eq`).
-/

namespace CodeAtlas

/-! ## The procedure -/

/-- A mask with a slice overwritten by `true`, if the slice lies in the mask with its ends in
order. -/
def fillSlice (mask : List Bool) (range : CodeRange) : Option (List Bool) :=
  if range.start ≤ range.stop ∧ range.stop ≤ mask.length then
    some (mask.take range.start ++ List.replicate (range.stop - range.start) true ++
      mask.drop range.stop)
  else none

/-- A mask with the slice of a range overwritten, both ends of the range clipped to `length`. -/
def fillClipped (length : Nat) (mask : List Bool) (range : CodeRange) : Option (List Bool) :=
  fillSlice mask ⟨min range.start length, min range.stop length⟩

/-- Whether a code starts as a library does, by looking at its first byte and at the two slices
behind it, if they are there. -/
def startsAsLibrary (code : List UInt8) : Option Bool :=
  if code.length ≤ addressLength + 2 then some false
  else do
    let first ← code[0]?
    let address ← slice code libraryAddress
    let behind ← slice code ⟨1 + addressLength, 3 + addressLength⟩
    return first == 0x73 && address.all (· == 0) && behind == [0x30, 0x14]

/-- Where the address stands that a library pushes first, if it does not matter. -/
def MatchPolicy.libraryRanges (policy : MatchPolicy) (code : List UInt8) :
    Option (List CodeRange) :=
  if policy.libraryAddressPrefix then
    (startsAsLibrary code).map fun isLibrary => if isLibrary then [libraryAddress] else []
  else some []

/-- The mask of a comparison, written in place. -/
def MatchPolicy.maskInPlace (policy : MatchPolicy) (candidate : Candidate)
    (running : List UInt8) : Option (List Bool) := do
  let fill := fillClipped candidate.code.length
  let blank := List.replicate candidate.code.length false
  let linked ← (if policy.ignoreLinkReferences then candidate.linkReferences else []).foldlM
    fill blank
  let written ← (if policy.ignoreImmutables then candidate.immutables else []).foldlM fill linked
  let described ← (if policy.ignoreMetadata then
    candidate.metadata.toList.filter (hasMetadataAt running candidate.code) else []).foldlM
    fill written
  let library ← policy.libraryRanges candidate.code
  library.foldlM fill described

/-! ## Slices -/

/-- The mask at a position after a range was marked. -/
theorem getElem?_markRange (mask : List Bool) (range : CodeRange) (position : Nat) :
    (markRange mask range)[position]? =
      mask[position]?.map fun any => any || range.covers position :=
  List.getElem?_mapIdx

/-- Marking a range keeps the length of a mask. -/
theorem length_markRange (mask : List Bool) (range : CodeRange) :
    (markRange mask range).length = mask.length :=
  List.length_mapIdx

/-- Marking ranges keeps the length of a mask. -/
theorem length_foldl_markRange (ranges : List CodeRange) (mask : List Bool) :
    (ranges.foldl markRange mask).length = mask.length := by
  induction ranges generalizing mask with
  | nil => rfl
  | cons range rest ih => rw [List.foldl_cons, ih, length_markRange]

/-- A slice that lies in the mask is overwritten with `true`, and all else is kept. -/
theorem fillSlice_eq {mask : List Bool} {range : CodeRange} (hstart : range.start ≤ range.stop)
    (hstop : range.stop ≤ mask.length) : fillSlice mask range = some (markRange mask range) := by
  unfold fillSlice
  rw [if_pos ⟨hstart, hstop⟩, Option.some.injEq]
  apply List.ext_getElem?
  intro position
  rw [getElem?_markRange, List.append_assoc, List.getElem?_append, List.length_take,
    Nat.min_eq_left (by omega), List.getElem?_append, List.length_replicate]
  -- In front of the slice, in it, or behind it.
  by_cases hfront : position < range.start
  · have hcovers : range.covers position = false :=
      CodeRange.covers_eq_false_iff.mpr (.inl hfront)
    rw [if_pos hfront, List.getElem?_take_of_lt hfront, hcovers]
    simp
  · rw [if_neg hfront]
    by_cases hin : position < range.stop
    · have hcovers : range.covers position = true :=
        CodeRange.covers_iff.mpr ⟨Nat.le_of_not_lt hfront, hin⟩
      rw [if_pos (by omega), List.getElem?_replicate, if_pos (by omega),
        List.getElem?_eq_getElem (by omega), hcovers]
      simp
    · have hcovers : range.covers position = false :=
        CodeRange.covers_eq_false_iff.mpr (.inr (by omega))
      have hposition : range.stop + (position - range.start - (range.stop - range.start)) =
          position := by omega
      rw [if_neg (by omega), List.getElem?_drop, hposition, hcovers]
      simp

/-- Clipping a range to the mask changes nothing about what it marks there. -/
theorem markRange_clipped (mask : List Bool) (range : CodeRange) :
    markRange mask ⟨min range.start mask.length, min range.stop mask.length⟩ =
      markRange mask range := by
  apply List.ext_getElem?
  intro position
  rw [getElem?_markRange, getElem?_markRange]
  by_cases hposition : position < mask.length
  · have hstart : min range.start mask.length ≤ position ↔ range.start ≤ position := by omega
    have hstop : position < min range.stop mask.length ↔ position < range.stop := by omega
    simp only [CodeRange.covers, hstart, hstop]
  · rw [List.getElem?_eq_none (by omega)]
    rfl

/-- The ends of a range are in order. -/
def CodeRange.IsOrdered (range : CodeRange) : Prop :=
  range.start ≤ range.stop

/-- Overwriting the clipped slice of a range whose ends are in order marks the range. -/
theorem fillClipped_eq {mask : List Bool} {range : CodeRange} (h : range.IsOrdered) :
    fillClipped mask.length mask range = some (markRange mask range) := by
  have hstart : min range.start mask.length ≤ min range.stop mask.length :=
    Nat.le_min.mpr ⟨Nat.le_trans (Nat.min_le_left _ _) h, Nat.min_le_right _ _⟩
  rw [fillClipped, fillSlice_eq hstart (Nat.min_le_right _ _), markRange_clipped]

/-- Overwriting the slices of ranges one after the other marks all of them. -/
theorem foldlM_fillClipped {ranges : List CodeRange} {mask : List Bool} {length : Nat}
    (hlength : mask.length = length) (h : ∀ range ∈ ranges, range.IsOrdered) :
    ranges.foldlM (fillClipped length) mask = some (ranges.foldl markRange mask) := by
  induction ranges generalizing mask with
  | nil => rfl
  | cons range rest ih =>
    obtain ⟨hrange, hrest⟩ := List.forall_mem_cons.mp h
    have hfill : fillClipped length mask range = some (markRange mask range) :=
      hlength ▸ fillClipped_eq hrange
    rw [List.foldlM_cons, hfill, List.foldl_cons]
    exact ih ((length_markRange mask range).trans hlength) hrest

/-! ## The start of a library -/

/-- A part of a code is the slice from where it starts to where it ends. -/
theorem slice_append (front part rest : List UInt8) :
    slice (front ++ (part ++ rest)) ⟨front.length, front.length + part.length⟩ = some part := by
  have hbounds : front.length ≤ front.length + part.length ∧
      front.length + part.length ≤ (front ++ (part ++ rest)).length := by
    rw [List.length_append, List.length_append]
    omega
  unfold slice
  rw [if_pos hbounds, ← List.append_assoc, ← List.length_append, List.take_left, List.drop_left]

/-- A code of the length of the start of a library, or longer, is such a start if and only if its
first byte and the two parts behind it are. -/
theorem libraryStart_prefix_iff {first : UInt8} {address behind rest : List UInt8}
    (haddress : address.length = addressLength) (hbehind : behind.length = 2) :
    libraryStart <+: first :: (address ++ (behind ++ rest)) ↔
      first = 0x73 ∧ address = List.replicate addressLength 0 ∧ behind = [0x30, 0x14] := by
  constructor
  · rintro ⟨more, hmore⟩
    have hbytes : 0x73 :: (List.replicate addressLength 0 ++ ([0x30, 0x14] ++ more)) =
        first :: (address ++ (behind ++ rest)) := hmore
    obtain ⟨hfirst, htail⟩ := List.cons_eq_cons.mp hbytes
    obtain ⟨hzero, hlast⟩ := List.append_inj htail (by rw [List.length_replicate, haddress])
    obtain ⟨hcompare, -⟩ := List.append_inj hlast hbehind.symm
    exact ⟨hfirst.symm, hzero.symm, hcompare.symm⟩
  · rintro ⟨rfl, rfl, rfl⟩
    exact ⟨rest, rfl⟩

/-- Looking at the bytes one by one tells whether the code has the start of a library in front. -/
theorem startsAsLibrary_eq (code : List UInt8) :
    startsAsLibrary code = some (libraryStart.isPrefixOf code) := by
  unfold startsAsLibrary
  by_cases hshort : code.length ≤ addressLength + 2
  · have hprefix : libraryStart.isPrefixOf code = false := by
      rw [Bool.eq_false_iff]
      intro h
      have hlength : addressLength + 3 ≤ code.length :=
        (List.isPrefixOf_iff_prefix.mp h).length_le
      omega
    rw [if_pos hshort, hprefix]
  · -- The first byte, the bytes of the address, and the two bytes behind them.
    obtain ⟨first, address, behind, rest, rfl, haddress, hbehind⟩ :
        ∃ first address behind rest, code = first :: (address ++ (behind ++ rest)) ∧
          address.length = addressLength ∧ behind.length = 2 := by
      obtain ⟨first, tail, rfl⟩ :=
        List.exists_cons_of_ne_nil (List.ne_nil_of_length_pos (by omega : 0 < code.length))
      rw [List.length_cons] at hshort
      refine ⟨first, tail.take addressLength, (tail.drop addressLength).take 2,
        (tail.drop addressLength).drop 2, ?_, ?_, ?_⟩
      · rw [List.take_append_drop, List.take_append_drop]
      · rw [List.length_take]
        omega
      · rw [List.length_take, List.length_drop]
        omega
    have hslice : slice (first :: (address ++ (behind ++ rest))) libraryAddress = some address := by
      have h := slice_append [first] address (behind ++ rest)
      rw [haddress] at h
      exact h
    have hslice' : slice (first :: (address ++ (behind ++ rest)))
        ⟨1 + addressLength, 3 + addressLength⟩ = some behind := by
      have h := slice_append (first :: address) behind rest
      rw [List.length_cons, haddress, hbehind] at h
      exact h
    rw [if_neg hshort, hslice, hslice']
    show some (first == 0x73 && address.all (· == 0) && behind == [0x30, 0x14]) = _
    rw [Option.some.injEq, Bool.eq_iff_iff, List.isPrefixOf_iff_prefix,
      libraryStart_prefix_iff haddress hbehind, List.eq_replicate_iff]
    simp [haddress, and_assoc]

/-! ## Candidates -/

/-- The range of offsets has its ends in order, whatever the offsets are. -/
theorem Offsets.isOrdered_range (offsets : Offsets) : offsets.range.IsOrdered :=
  Nat.le_add_right _ _

/-- The ends of a placeholder are in order. -/
theorem isOrdered_of_decodeBlocks {position : Nat} {text code : List UInt8}
    {ranges : List CodeRange} (h : decodeBlocks position text = some (code, ranges)) :
    ∀ range ∈ ranges, range.IsOrdered := by
  intro range hrange
  have hfits := fitsAddress_of_decodeBlocks h range hrange
  show range.start ≤ range.stop
  rw [hfits.stop_eq]
  exact Nat.le_add_right _ _

/-- All ranges of a candidate have their ends in order. -/
structure Candidate.IsOrdered (candidate : Candidate) : Prop where
  /-- Where library addresses go. -/
  linkReferences : ∀ range ∈ candidate.linkReferences, range.IsOrdered
  /-- Where the values of immutable variables go. -/
  immutables : ∀ range ∈ candidate.immutables, range.IsOrdered
  /-- The metadata section. -/
  metadata : ∀ range ∈ candidate.metadata, range.IsOrdered

/-- The ranges of a candidate have their ends in order, if those of the bytecode do. -/
theorem Candidate.isOrdered_of_ofBytecode {bytecode : Bytecode} {immutables : List CodeRange}
    {candidate : Candidate} (h : ofBytecode bytecode immutables = some candidate)
    (hlinks : ∀ range ∈ bytecode.linkReferences, range.IsOrdered)
    (himmutables : ∀ range ∈ immutables, range.IsOrdered) : candidate.IsOrdered := by
  obtain ⟨hown, hmetadata⟩ := ofBytecode_fields h
  refine ⟨?_, hown ▸ himmutables, fun range hrange => ?_⟩
  · unfold ofBytecode at h
    split at h
    · cases h
      exact hlinks
    · obtain ⟨⟨code, placeholders⟩, hdecode, hcandidate⟩ := Option.map_eq_some_iff.mp h
      cases hcandidate
      exact List.forall_mem_append.mpr ⟨isOrdered_of_decodeBlocks hdecode, hlinks⟩
  · rw [hmetadata] at hrange
    obtain ⟨hstart, -⟩ := metadataRange_bounds hrange
    show range.start ≤ range.stop
    omega

/-- Ranges that are there only under a condition have their ends in order if they do when they are
there. -/
theorem isOrdered_of_mem_ite {condition : Bool} {ranges : List CodeRange}
    (h : ∀ range ∈ ranges, range.IsOrdered) :
    ∀ range ∈ if condition then ranges else [], range.IsOrdered := by
  cases condition with
  | true => exact h
  | false => exact fun range hrange => absurd hrange List.not_mem_nil

/-- The mask of a comparison can be written in place: every slice lies in the mask with its ends in
order, and every byte that is looked at is there. What is written is the mask. -/
theorem MatchPolicy.maskInPlace_eq {candidate : Candidate} (h : candidate.IsOrdered)
    (policy : MatchPolicy) (running : List UInt8) :
    policy.maskInPlace candidate running = some (policy.mask candidate running) := by
  have hsection : ∀ range ∈ candidate.metadata.toList.filter
      (hasMetadataAt running candidate.code), range.IsOrdered := fun range hrange =>
    h.metadata range (Option.mem_toList.mp (List.mem_filter.mp hrange).1)
  have hlibrary : policy.libraryRanges candidate.code =
      some (if policy.libraryAddressPrefix && libraryStart.isPrefixOf candidate.code then
        [libraryAddress] else []) := by
    unfold libraryRanges
    rw [startsAsLibrary_eq]
    cases policy.libraryAddressPrefix <;> rfl
  have haddress : ∀ range ∈ [libraryAddress], range.IsOrdered :=
    List.forall_mem_singleton.mpr (Nat.le_add_right 1 addressLength)
  -- The slices of one kind after the other, in a mask that keeps its length.
  have hblank : (List.replicate candidate.code.length false).length = candidate.code.length :=
    List.length_replicate
  have hlinked := (length_foldl_markRange
    (if policy.ignoreLinkReferences then candidate.linkReferences else []) _).trans hblank
  have hwritten := (length_foldl_markRange
    (if policy.ignoreImmutables then candidate.immutables else []) _).trans hlinked
  have hdescribed := (length_foldl_markRange (if policy.ignoreMetadata then
    candidate.metadata.toList.filter (hasMetadataAt running candidate.code) else []) _).trans hwritten
  unfold maskInPlace mask tolerated
  simp only [foldlM_fillClipped hblank (isOrdered_of_mem_ite h.linkReferences),
    foldlM_fillClipped hlinked (isOrdered_of_mem_ite h.immutables),
    foldlM_fillClipped hwritten (isOrdered_of_mem_ite hsection), hlibrary,
    foldlM_fillClipped hdescribed (isOrdered_of_mem_ite haddress), List.foldl_append,
    Option.bind_eq_bind, Option.bind_some]

end CodeAtlas
