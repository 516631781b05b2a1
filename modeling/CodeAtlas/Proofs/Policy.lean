import CodeAtlas.Policy

/-!
# What tolerant comparison means

`MatchPolicy.accepts` builds a mask and compares byte by byte. `MatchPolicy.accepts_iff` says what
comes of it without a mask: the lengths fit, and wherever the bytes differ there is a tolerated
range. The mask at a position tells whether one of the tolerated ranges covers it (`getElem?_mask`).
-/

namespace CodeAtlas

/-- Marking ranges marks the positions that they cover. -/
theorem getElem?_foldl_markRange (ranges : List CodeRange) (mask : List Bool) (position : Nat) :
    (ranges.foldl markRange mask)[position]? =
      mask[position]?.map fun any => any || ranges.any (·.covers position) := by
  induction ranges generalizing mask with
  | nil => simp
  | cons range ranges ih =>
    rw [List.foldl_cons, ih]
    unfold markRange
    rw [List.getElem?_mapIdx, Option.map_map]
    congr 1
    funext any
    simp only [Function.comp_apply, List.any_cons, Bool.or_assoc]

/-- Codes agree if they have the same byte wherever the mask does not allow any. -/
theorem agree_iff {wants finds : List UInt8} {mask : List Bool} :
    agree wants finds mask = true ↔ ∀ (position : Nat) (want found : UInt8) (any : Bool),
      wants[position]? = some want → finds[position]? = some found → mask[position]? = some any →
      any = true ∨ want = found := by
  induction wants generalizing finds mask with
  | nil => simp [agree]
  | cons want wants ih =>
    cases finds with
    | nil => simp [agree]
    | cons found finds =>
      cases mask with
      | nil => simp [agree]
      | cons any mask =>
        -- The first position is compared here, and each position behind it in the rest.
        rw [agree, Bool.and_eq_true, ih, Bool.or_eq_true, beq_iff_eq]
        constructor
        · rintro ⟨hfirst, hrest⟩ position want' found' any' hwant hfound hany
          cases position with
          | zero =>
            cases hwant
            cases hfound
            cases hany
            exact hfirst
          | succ position => exact hrest position want' found' any' hwant hfound hany
        · intro h
          refine ⟨h 0 want found any rfl rfl rfl, ?_⟩
          exact fun position want' found' any' hwant hfound hany =>
            h (position + 1) want' found' any' hwant hfound hany

namespace MatchPolicy

/-- The tolerated ranges are those of each kind for which the switch is on. -/
theorem mem_tolerated_iff {policy : MatchPolicy} {candidate : Candidate} {running : List UInt8}
    {range : CodeRange} :
    range ∈ policy.tolerated candidate running ↔
      (policy.ignoreLinkReferences = true ∧ range ∈ candidate.linkReferences) ∨
      (policy.ignoreImmutables = true ∧ range ∈ candidate.immutables) ∨
      (policy.ignoreMetadata = true ∧ candidate.metadata = some range ∧
        hasMetadataAt running candidate.code range = true) ∨
      (policy.libraryAddressPrefix = true ∧ libraryStart <+: candidate.code ∧
        range = libraryAddress) := by
  unfold tolerated
  simp only [List.mem_append, List.mem_ite_nil_right, List.mem_filter, Option.mem_toList,
    List.mem_singleton, Bool.and_eq_true, List.isPrefixOf_iff_prefix, or_assoc, and_assoc]

/-- The mask allows any byte where a tolerated range covers the position. -/
theorem getElem?_mask {policy : MatchPolicy} {candidate : Candidate} {running : List UInt8}
    {position : Nat} (h : position < candidate.code.length) :
    (policy.mask candidate running)[position]? =
      some ((policy.tolerated candidate running).any (·.covers position)) := by
  unfold mask
  rw [getElem?_foldl_markRange, List.getElem?_replicate, if_pos h]
  simp

/-- Running code is a form of a candidate if and only if the candidate has bytes, the running code
is as long or longer where arguments may follow, and a tolerated range covers each position of the
candidate at which the two differ. -/
theorem accepts_iff {policy : MatchPolicy} {running : List UInt8} {candidate : Candidate}
    {isCreation : Bool} :
    policy.accepts running candidate isCreation = true ↔
      candidate.code ≠ [] ∧ candidate.code.length ≤ running.length ∧
      (running.length = candidate.code.length ∨
        (isCreation = true ∧ policy.allowConstructorArgs = true)) ∧
      ∀ position < candidate.code.length, candidate.code[position]? ≠ running[position]? →
        ∃ range ∈ policy.tolerated candidate running, range.covers position = true := by
  unfold accepts
  simp only [Bool.and_eq_true, Bool.or_eq_true, decide_eq_true_eq, Bool.not_eq_true',
    List.isEmpty_eq_false_iff, agree_iff, and_assoc]
  refine and_congr_right fun _ => and_congr_right fun hlength => and_congr_right fun _ => ?_
  constructor
  · intro h position hposition hdiffer
    have hmask : (policy.mask candidate running)[position]? = _ := getElem?_mask hposition
    rcases h position _ _ _ (List.getElem?_eq_getElem hposition)
      (List.getElem?_eq_getElem (by omega)) hmask with hany | hsame
    · exact List.any_eq_true.mp hany
    · refine absurd ?_ hdiffer
      rw [List.getElem?_eq_getElem hposition, List.getElem?_eq_getElem (by omega), hsame]
  · intro h position want found any hwant hfound hany
    obtain ⟨hposition, -⟩ := List.getElem?_eq_some_iff.mp hwant
    rw [getElem?_mask hposition] at hany
    cases hany
    by_cases hsame : want = found
    · exact .inr hsame
    · refine .inl (List.any_eq_true.mpr (h position hposition ?_))
      rw [hwant, hfound]
      exact fun heq => hsame (Option.some.inj heq)

end MatchPolicy

end CodeAtlas
