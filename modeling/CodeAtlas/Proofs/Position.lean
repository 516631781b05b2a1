import CodeAtlas.Position
import Mathlib.Data.Prod.Lex
import Mathlib.Order.Monotone.Basic

/-!
# Offsets as lines and columns

The line of an offset is the number of line breaks in front of it. In breaks that ascend these are
the first ones, so that the line splits the breaks at the offset (`SplitsAt`). A search that halves
the breaks ends with this number, and everything it looks up is there (`searchBreaks_of_splitsAt`).
The break in front of the line lies in front of the offset. So the line starts at the offset or
before it, and neither the sum nor the difference that leads to the column leaves the 64-bit words
(`lineColumn?_eq`).

A line and a column give their offset back (`LineColumn.offset_lineColumn`), and the order of
offsets is the order of lines and columns (`strictMono_lineColumn`). The line breaks of a text
ascend, the line of an offset counts the breaks among the bytes in front of it, and its column does
not lead out of the line. `lineColumn_embeds` puts all of this together.
-/

namespace CodeAtlas

/-! ## The breaks in front of an offset -/

/-- A number splits line breaks at an offset: so many of them lie in front of it, and these are the
first ones. -/
structure SplitsAt (breaks : List Nat) (offset line : Nat) : Prop where
  /-- There are so many breaks. -/
  le_length : line ≤ breaks.length
  /-- A break lies in front of the offset if it is one of the first, and only then. -/
  lt_iff : ∀ {index position}, breaks[index]? = some position → (position < offset ↔ index < line)

namespace SplitsAt

variable {breaks : List Nat} {offset line : Nat}

/-- A break that is looked up below the split is there, in front of the offset. -/
theorem exists_lt (h : SplitsAt breaks offset line) {index : Nat} (hindex : index < line) :
    ∃ position, breaks[index]? = some position ∧ position < offset := by
  have hlength : index < breaks.length := Nat.lt_of_lt_of_le hindex h.le_length
  have hat : breaks[index]? = some breaks[index] := List.getElem?_eq_getElem hlength
  exact ⟨breaks[index], hat, (h.lt_iff hat).mpr hindex⟩

/-- A smaller offset does not split the breaks later. -/
theorem mono (h : SplitsAt breaks offset line) {offset' line' : Nat}
    (h' : SplitsAt breaks offset' line') (hle : offset ≤ offset') : line ≤ line' := by
  refine Nat.le_of_not_lt fun hlt => ?_
  -- The break at the later split would lie in front of the smaller offset only.
  obtain ⟨position, hat, hposition⟩ := h.exists_lt hlt
  have hless : line' < line' := (h'.lt_iff hat).mp (Nat.lt_of_lt_of_le hposition hle)
  exact Nat.lt_irrefl line' hless

end SplitsAt

/-- In breaks that ascend, the line of an offset splits them at the offset. -/
theorem splitsAt_lineColumn {breaks : List Nat} (h : breaks.Pairwise (· ≤ ·)) (offset : Nat) :
    SplitsAt breaks offset (lineColumn breaks offset).line := by
  show SplitsAt breaks offset (breaks.takeWhile (· < offset)).length
  -- A first break in front of the offset counts, and one that is not in front ends the count.
  induction breaks with
  | nil => exact ⟨Nat.le_refl 0, fun hat => by cases hat⟩
  | cons first rest ih =>
    obtain ⟨hfirst, hrest⟩ := List.pairwise_cons.mp h
    by_cases hless : first < offset
    · obtain ⟨hlength, hiff⟩ := ih hrest
      rw [List.takeWhile_cons, if_pos (decide_eq_true hless), List.length_cons]
      refine ⟨Nat.succ_le_succ hlength, fun {index position} hat => ?_⟩
      cases index with
      | zero =>
        rw [List.getElem?_cons_zero, Option.some.injEq] at hat
        exact iff_of_true (hat ▸ hless) (Nat.succ_pos _)
      | succ index =>
        rw [List.getElem?_cons_succ] at hat
        exact (hiff hat).trans Nat.succ_lt_succ_iff.symm
    · -- No break in the rest comes before the first one.
      rw [List.takeWhile_cons, if_neg (by simpa using hless), List.length_nil]
      refine ⟨Nat.zero_le _, fun {index position} hat => ?_⟩
      have hle : first ≤ position := by
        rcases List.mem_cons.mp (List.mem_of_getElem? hat) with rfl | hmem
        · exact Nat.le_refl _
        · exact hfirst position hmem
      exact iff_of_false (by omega) (Nat.not_lt_zero index)

/-! ## The search on words -/

/-- The number of breaks in front of an offset, by halving: it is `base` or one of the `size`
numbers behind it. The search comes to nothing if it looks for a break that is not there. -/
def searchBreaks (breaks : List Nat) (offset base size : Nat) : Option Nat :=
  if size ≤ 1 then do
    let position ← breaks[base]?
    return if position < offset then base + 1 else base
  else do
    let middle ← breaks[base + size / 2]?
    searchBreaks breaks offset (if middle < offset then base + size / 2 else base) (size - size / 2)
termination_by size

/-- The number of breaks in front of an offset, found by the search. -/
def breaksBefore? (breaks : List Nat) (offset : Nat) : Option Nat :=
  if breaks.isEmpty then some 0 else searchBreaks breaks offset 0 breaks.length

/-- The sum of two words, if it is a word. -/
def addWords? (a b : Nat) : Option Nat :=
  if a + b ≤ maxOffset then some (a + b) else none

/-- The difference of two words, if it is not negative. -/
def subWords? (a b : Nat) : Option Nat :=
  if b ≤ a then some (a - b) else none

/-- The word at which a line starts, if the break before the line is there. -/
def lineStart? (breaks : List Nat) : Nat → Option Nat
  | 0 => some 0
  | line + 1 => do addWords? (← breaks[line]?) 1

/-- The line and column of an offset on words. It comes to nothing if a break is looked for that is
not there, or if a sum or a difference is no word. -/
def lineColumn? (breaks : List Nat) (offset : Nat) : Option LineColumn := do
  let line ← breaksBefore? breaks offset
  let start ← lineStart? breaks line
  let column ← subWords? offset start
  return ⟨line, column⟩

/-- The lines and columns of both ends of a range on words. -/
def lineColumnRange? (breaks : List Nat) (location : RawLocation) : Option LineColumnRange := do
  let start ← lineColumn? breaks location.start.toNat
  let stop ← lineColumn? breaks location.stop
  return ⟨start, stop⟩

/-- The search ends with the number that splits the breaks, from every stretch of them that has this
number and lies inside. -/
theorem searchBreaks_of_splitsAt {breaks : List Nat} {offset line : Nat}
    (h : SplitsAt breaks offset line) {base size : Nat} (hsize : 0 < size)
    (hinside : base + size ≤ breaks.length) (hbase : base ≤ line) (hline : line ≤ base + size) :
    searchBreaks breaks offset base size = some line := by
  -- A round cuts the stretch at its middle and keeps the part with the split. So what a round
  -- preserves is that the split lies in `base, .., base + size` and the stretch inside the breaks.
  induction size using Nat.strong_induction_on generalizing base with
  | h size ih =>
    rw [searchBreaks]
    by_cases hone : size ≤ 1
    · have hat : breaks[base]? = some breaks[base] := List.getElem?_eq_getElem (by omega)
      have hiff := h.lt_iff hat
      rw [if_pos hone, hat]
      show some (if breaks[base] < offset then base + 1 else base) = some line
      split <;> congr 1 <;> omega
    · have hat : breaks[base + size / 2]? = some breaks[base + size / 2] :=
        List.getElem?_eq_getElem (by omega)
      have hiff := h.lt_iff hat
      rw [if_neg hone, hat]
      show searchBreaks breaks offset
        (if breaks[base + size / 2] < offset then base + size / 2 else base) (size - size / 2) = _
      -- The middle break is in front of the offset if the split is behind it, and only then.
      split
      · exact ih (size - size / 2) (by omega) (by omega) (by omega) (by omega) (by omega)
      · exact ih (size - size / 2) (by omega) (by omega) (by omega) (by omega) (by omega)

/-- The search finds the number that splits the breaks. -/
theorem breaksBefore?_of_splitsAt {breaks : List Nat} {offset line : Nat}
    (h : SplitsAt breaks offset line) : breaksBefore? breaks offset = some line := by
  have hlength := h.le_length
  unfold breaksBefore?
  cases breaks with
  | nil => exact congrArg some (Nat.le_zero.mp hlength).symm
  | cons first rest =>
    exact searchBreaks_of_splitsAt h (Nat.succ_pos _) (by omega) (Nat.zero_le _) (by omega)

/-- A line behind a break starts one past it. -/
theorem lineStart_succ {breaks : List Nat} {line position : Nat}
    (h : breaks[line]? = some position) : lineStart breaks (line + 1) = position + 1 := by
  show breaks.getD line 0 + 1 = position + 1
  rw [List.getD_eq_getElem?_getD, h, Option.getD_some]

/-- The line of an offset starts there or before. -/
theorem SplitsAt.lineStart_le {breaks : List Nat} {offset line : Nat}
    (h : SplitsAt breaks offset line) : lineStart breaks line ≤ offset := by
  cases line with
  | zero => exact Nat.zero_le offset
  | succ line =>
    obtain ⟨position, hat, hposition⟩ := h.exists_lt (Nat.lt_succ_self line)
    rw [lineStart_succ hat]
    exact hposition

/-- Where the line of a word starts is found on words. -/
theorem SplitsAt.lineStart?_eq {breaks : List Nat} {offset line : Nat}
    (h : SplitsAt breaks offset line) (hoffset : offset ≤ maxOffset) :
    lineStart? breaks line = some (lineStart breaks line) := by
  cases line with
  | zero => rfl
  | succ line =>
    obtain ⟨position, hat, hposition⟩ := h.exists_lt (Nat.lt_succ_self line)
    -- The break lies in front of a word, so that the place behind it is a word.
    have hword : position + 1 ≤ maxOffset := Nat.le_trans hposition hoffset
    calc lineStart? breaks (line + 1)
        = breaks[line]?.bind fun found => addWords? found 1 := rfl
      _ = addWords? position 1 := by rw [hat, Option.bind_some]
      _ = some (position + 1) := if_pos hword
      _ = some (lineStart breaks (line + 1)) := by rw [lineStart_succ hat]

/-- With breaks that ascend, the line and column of a word are found on words. -/
theorem lineColumn?_eq {breaks : List Nat} (h : breaks.Pairwise (· ≤ ·)) {offset : Nat}
    (hoffset : offset ≤ maxOffset) :
    lineColumn? breaks offset = some (lineColumn breaks offset) := by
  have hsplits := splitsAt_lineColumn h offset
  have hcolumn : subWords? offset (lineStart breaks (lineColumn breaks offset).line) =
      some (lineColumn breaks offset).column := if_pos hsplits.lineStart_le
  unfold lineColumn?
  simp only [breaksBefore?_of_splitsAt hsplits, hsplits.lineStart?_eq hoffset, hcolumn,
    Option.bind_eq_bind, Option.bind_some]
  rfl

/-- The offset behind a range is a word. -/
theorem RawLocation.stop_le (location : RawLocation) : location.stop ≤ maxOffset :=
  Nat.min_le_right _ _

/-- The offset at which a range starts is a word. -/
theorem RawLocation.start_le (location : RawLocation) : location.start.toNat ≤ maxOffset :=
  Nat.le_pred_of_lt location.start.toNat_lt_size

/-- With breaks that ascend, the lines and columns of a range are found on words. -/
theorem lineColumnRange?_eq {breaks : List Nat} (h : breaks.Pairwise (· ≤ ·))
    (location : RawLocation) :
    lineColumnRange? breaks location = some (lineColumnRange breaks location) := by
  unfold lineColumnRange?
  rw [lineColumn?_eq h location.start_le, lineColumn?_eq h location.stop_le]
  rfl

/-! ## Back to offsets -/

/-- The offset of a line and a column. -/
def LineColumn.offset (breaks : List Nat) (position : LineColumn) : Nat :=
  lineStart breaks position.line + position.column

/-- The line and column of an offset give it back. -/
theorem LineColumn.offset_lineColumn {breaks : List Nat} (h : breaks.Pairwise (· ≤ ·))
    (offset : Nat) : (lineColumn breaks offset).offset breaks = offset :=
  Nat.add_sub_cancel' (splitsAt_lineColumn h offset).lineStart_le

/-! ## The order of lines and columns -/

/-- A line and a column are known by the pair of them. -/
theorem LineColumn.toLex_injective :
    Function.Injective fun position : LineColumn => toLex (position.line, position.column) := by
  rintro ⟨line, column⟩ ⟨line', column'⟩ h
  obtain ⟨hline, hcolumn⟩ := Prod.mk.inj (toLex.injective h)
  exact congrArg₂ LineColumn.mk hline hcolumn

/-- Lines and columns are in the order of the lines, and on one line in that of the columns. -/
instance : LinearOrder LineColumn :=
  LinearOrder.lift' (fun position => toLex (position.line, position.column))
    LineColumn.toLex_injective

/-- What comes first is the smaller line, or the smaller column on the same line. -/
theorem LineColumn.lt_iff {a b : LineColumn} :
    a < b ↔ a.line < b.line ∨ a.line = b.line ∧ a.column < b.column :=
  Prod.Lex.toLex_lt_toLex

/-- Offsets are in the order of their lines and columns. -/
theorem strictMono_lineColumn {breaks : List Nat} (h : breaks.Pairwise (· ≤ ·)) :
    StrictMono (lineColumn breaks) := by
  intro offset offset' hless
  have hline : (lineColumn breaks offset).line ≤ (lineColumn breaks offset').line :=
    (splitsAt_lineColumn h offset).mono (splitsAt_lineColumn h offset') (Nat.le_of_lt hless)
  rcases Nat.lt_or_eq_of_le hline with hearlier | hsame
  · exact LineColumn.lt_iff.mpr (.inl hearlier)
  · -- Both columns are counted from the same start.
    have hback : lineStart breaks (lineColumn breaks offset).line +
        (lineColumn breaks offset).column = offset := LineColumn.offset_lineColumn h offset
    have hback' : lineStart breaks (lineColumn breaks offset').line +
        (lineColumn breaks offset').column = offset' := LineColumn.offset_lineColumn h offset'
    rw [hsame] at hback
    exact LineColumn.lt_iff.mpr (.inr ⟨hsame, by omega⟩)

/-- A range does not end before it starts, and it ends where it starts if it is empty, or if it
starts at the largest offset. -/
theorem lineColumnRange_order {breaks : List Nat} (h : breaks.Pairwise (· ≤ ·))
    (location : RawLocation) :
    (lineColumnRange breaks location).start ≤ (lineColumnRange breaks location).stop ∧
      ((lineColumnRange breaks location).start = (lineColumnRange breaks location).stop ↔
        location.length = 0 ∨ location.start.toNat = maxOffset) := by
  have hmono := strictMono_lineColumn h
  have hstart := location.start_le
  have hstop : location.stop = min (location.start.toNat + location.length.toNat) maxOffset := rfl
  have hzero : location.length = 0 ↔ location.length.toNat = 0 := UInt64.toNat_inj.symm
  refine ⟨hmono.monotone (by omega), ?_⟩
  calc lineColumn breaks location.start.toNat = lineColumn breaks location.stop
      ↔ location.start.toNat = location.stop := hmono.injective.eq_iff
    _ ↔ location.length = 0 ∨ location.start.toNat = maxOffset := by rw [hzero]; omega

/-! ## The breaks of a text -/

/-- No line break lies in front of the first byte. -/
theorem le_of_mem_lineBreaksFrom {first position : Nat} {bytes : List UInt8}
    (h : position ∈ lineBreaksFrom first bytes) : first ≤ position := by
  induction bytes generalizing first with
  | nil => cases h
  | cons byte rest ih =>
    have hrest : position ∈ lineBreaksFrom (first + 1) rest → first ≤ position :=
      fun hmem => Nat.le_of_succ_le (ih hmem)
    rw [lineBreaksFrom] at h
    split at h
    · rcases List.mem_cons.mp h with rfl | hmem
      · exact Nat.le_refl _
      · exact hrest hmem
    · exact hrest h

/-- The line breaks of bytes ascend. -/
theorem pairwise_lineBreaksFrom (first : Nat) (bytes : List UInt8) :
    (lineBreaksFrom first bytes).Pairwise (· ≤ ·) := by
  induction bytes generalizing first with
  | nil => exact .nil
  | cons byte rest ih =>
    rw [lineBreaksFrom]
    split
    · refine .cons (fun position hmem => ?_) (ih (first + 1))
      exact Nat.le_of_succ_le (le_of_mem_lineBreaksFrom hmem)
    · exact ih (first + 1)

/-- The line breaks of a text ascend. -/
theorem pairwise_lineBreaks (text : String) : (lineBreaks text).Pairwise (· ≤ ·) :=
  pairwise_lineBreaksFrom 0 _

/-- Up to the first byte there is no line break in front of an offset. -/
theorem takeWhile_lineBreaksFrom_of_le {first offset : Nat} (bytes : List UInt8)
    (h : offset ≤ first) : (lineBreaksFrom first bytes).takeWhile (· < offset) = [] := by
  cases hbreaks : lineBreaksFrom first bytes with
  | nil => rfl
  | cons position behind =>
    have hmem : position ∈ lineBreaksFrom first bytes := hbreaks ▸ List.mem_cons_self
    have hle : first ≤ position := le_of_mem_lineBreaksFrom hmem
    have hnot : ¬ position < offset := Nat.not_lt.mpr (Nat.le_trans h hle)
    rw [List.takeWhile_cons, if_neg (by simpa using hnot)]

/-- The line breaks in front of an offset are the break bytes in front of it. -/
theorem length_takeWhile_lineBreaksFrom (first offset : Nat) (bytes : List UInt8) :
    ((lineBreaksFrom first bytes).takeWhile (· < offset)).length =
      (bytes.take (offset - first)).count 0x0a := by
  induction bytes generalizing first with
  | nil => simp [lineBreaksFrom]
  | cons byte rest ih =>
    by_cases hle : offset ≤ first
    · rw [takeWhile_lineBreaksFrom_of_le _ hle, Nat.sub_eq_zero_of_le hle]
      rfl
    · -- The first byte is in front of the offset and counts if it is a break.
      have hsub : offset - first = offset - (first + 1) + 1 := by omega
      rw [hsub, List.take_succ_cons, List.count_cons, ← ih (first + 1), lineBreaksFrom]
      by_cases hbreak : byte = 0x0a
      · have hless : decide (first < offset) = true := decide_eq_true (by omega)
        have hcounts : (byte == 0x0a) = true := beq_iff_eq.mpr hbreak
        rw [if_pos hbreak, List.takeWhile_cons, if_pos hless, List.length_cons, if_pos hcounts]
      · have hother : ¬ (byte == 0x0a) = true := fun heq => hbreak (beq_iff_eq.mp heq)
        rw [if_neg hbreak, if_neg hother]
        exact (Nat.add_zero _).symm

/-- The line of an offset counts the break bytes in front of it. -/
theorem line_lineColumn (text : String) (offset : Nat) :
    (lineColumn (lineBreaks text) offset).line =
      ((Text.utf8 text.toList).take offset).count 0x0a :=
  length_takeWhile_lineBreaksFrom 0 offset _

/-! ## The bytes of a line -/

/-- Where a line of bytes starts, of which the first has the offset `first`. -/
def lineStartFrom (first : Nat) (breaks : List Nat) : Nat → Nat
  | 0 => first
  | line + 1 => breaks.getD line 0 + 1

/-- Behind a break byte the first line starts that is the second one from the byte on. -/
theorem lineStartFrom_cons (first line : Nat) (breaks : List Nat) :
    lineStartFrom first (first :: breaks) (line + 1) = lineStartFrom (first + 1) breaks line := by
  cases line <;> rfl

/-- Up to the end of the bytes, an offset lies on its line or directly behind it. -/
theorem exists_row {first offset : Nat} {bytes : List UInt8} (hfirst : first ≤ offset)
    (hoffset : offset ≤ first + bytes.length) :
    ∃ row, (bytes.splitOn 0x0a)[((lineBreaksFrom first bytes).takeWhile (· < offset)).length]? =
        some row ∧
      offset ≤ lineStartFrom first (lineBreaksFrom first bytes)
        ((lineBreaksFrom first bytes).takeWhile (· < offset)).length + row.length := by
  induction bytes generalizing first with
  | nil =>
    rw [List.length_nil] at hoffset
    exact ⟨[], rfl, by show offset ≤ first + 0; omega⟩
  | cons byte rest ih =>
    rw [List.length_cons] at hoffset
    by_cases hhere : offset = first
    · -- At the first byte there is no break in front of the offset.
      have hnone := takeWhile_lineBreaksFrom_of_le (byte :: rest) (Nat.le_of_eq hhere)
      obtain ⟨row, rows, hrows⟩ :=
        List.exists_cons_of_ne_nil (List.splitOn_ne_nil 0x0a (byte :: rest))
      rw [hnone, List.length_nil, hrows]
      exact ⟨row, rfl, by show offset ≤ first + row.length; omega⟩
    · have hbehind : first + 1 ≤ offset := by omega
      obtain ⟨row, hrow, hbound⟩ := ih hbehind (by omega)
      rw [List.splitOn_cons_eq_if_modifyHead, lineBreaksFrom]
      by_cases hbreak : byte = 0x0a
      · -- The break ends a line, and the rest has the others.
        have hless : decide (first < offset) = true := decide_eq_true (by omega)
        rw [if_pos hbreak, if_pos (beq_iff_eq.mpr hbreak), List.takeWhile_cons, if_pos hless,
          List.length_cons, lineStartFrom_cons]
        exact ⟨row, hrow, hbound⟩
      · -- The byte belongs to the first line of the rest.
        obtain ⟨head, tail, hrows⟩ := List.exists_cons_of_ne_nil (List.splitOn_ne_nil 0x0a rest)
        rw [hrows] at hrow
        rw [if_neg hbreak, if_neg (fun heq => hbreak (beq_iff_eq.mp heq)), hrows,
          List.modifyHead_cons]
        cases hline : ((lineBreaksFrom (first + 1) rest).takeWhile (· < offset)).length with
        | zero =>
          rw [hline] at hrow hbound
          obtain rfl : head = row := by simpa using hrow
          have hown : offset ≤ first + 1 + head.length := hbound
          refine ⟨byte :: head, rfl, ?_⟩
          show offset ≤ first + (head.length + 1)
          omega
        | succ line =>
          rw [hline] at hrow hbound
          exact ⟨row, hrow, hbound⟩

/-- The column of an offset does not lead out of its line, up to the end of the text. -/
theorem exists_row_lineColumn (text : String) {offset : Nat}
    (h : offset ≤ (Text.utf8 text.toList).length) :
    ∃ row, ((Text.utf8 text.toList).splitOn 0x0a)[(lineColumn (lineBreaks text) offset).line]? =
        some row ∧ (lineColumn (lineBreaks text) offset).column ≤ row.length := by
  have hend : offset ≤ 0 + (Text.utf8 text.toList).length := by omega
  obtain ⟨row, hrow, hbound⟩ := exists_row (Nat.zero_le offset) hend
  have hstart : ∀ line, lineStartFrom 0 (lineBreaks text) line = lineStart (lineBreaks text) line :=
    fun line => by cases line <;> rfl
  refine ⟨row, hrow, Nat.sub_le_of_le_add ?_⟩
  rw [Nat.add_comm, ← hstart]
  exact hbound

/-! ## Every offset -/

/-- Line breaks from which every offset has a line and a column that give it back. -/
structure Locates (breaks : List Nat) : Prop where
  /-- The line and column of a word are found without a look behind the breaks and without a sum or
  difference that is no word. -/
  found : ∀ offset ≤ maxOffset, lineColumn? breaks offset = some (lineColumn breaks offset)
  /-- So are those of both ends of a range. -/
  found_range : ∀ location,
    lineColumnRange? breaks location = some (lineColumnRange breaks location)
  /-- The break in front of the line is there. -/
  line_le : ∀ offset, (lineColumn breaks offset).line ≤ breaks.length
  /-- The column is counted from where the line starts. -/
  lineStart_add_column : ∀ offset,
    lineStart breaks (lineColumn breaks offset).line + (lineColumn breaks offset).column = offset

/-- Line breaks that ascend locate every offset. -/
theorem locates_of_pairwise {breaks : List Nat} (h : breaks.Pairwise (· ≤ ·)) : Locates breaks where
  found _ hoffset := lineColumn?_eq h hoffset
  found_range location := lineColumnRange?_eq h location
  line_le offset := (splitsAt_lineColumn h offset).le_length
  lineStart_add_column offset := LineColumn.offset_lineColumn h offset

/-- Every offset has a line and a column, which give it back and are in its order.

* With any line breaks that ascend, the line and column of every word are found on words, and the
  start of the line and the column add up to the offset. A line other than the first starts one past
  the break in front of it, which is there.
* The line breaks of a text are such breaks, and the line of an offset is the number of break bytes
  in front of it. Up to the end of the text, the column is at most the length of the line.
* Lines and columns of two offsets are in the order of the offsets and are not the same. A range
  does not end before it starts, and it ends there if and only if it is empty or starts at the
  largest offset. -/
theorem lineColumn_embeds :
    (∀ breaks : List Nat, breaks.Pairwise (· ≤ ·) → Locates breaks) ∧
    ∀ text : String, Locates (lineBreaks text) ∧
      (∀ offset, (lineColumn (lineBreaks text) offset).line =
        ((Text.utf8 text.toList).take offset).count 0x0a) ∧
      (∀ offset ≤ (Text.utf8 text.toList).length, ∃ row,
        ((Text.utf8 text.toList).splitOn 0x0a)[(lineColumn (lineBreaks text) offset).line]? =
            some row ∧
          (lineColumn (lineBreaks text) offset).column ≤ row.length) ∧
      StrictMono (lineColumn (lineBreaks text)) ∧
      Function.Injective (lineColumn (lineBreaks text)) ∧
      ∀ location, (lineColumnRange (lineBreaks text) location).start ≤
          (lineColumnRange (lineBreaks text) location).stop ∧
        ((lineColumnRange (lineBreaks text) location).start =
            (lineColumnRange (lineBreaks text) location).stop ↔
          location.length = 0 ∨ location.start.toNat = maxOffset) := by
  refine ⟨fun breaks h => locates_of_pairwise h, fun text => ?_⟩
  have hascending := pairwise_lineBreaks text
  have hmono := strictMono_lineColumn hascending
  refine ⟨locates_of_pairwise hascending, line_lineColumn text, ?_, hmono, hmono.injective,
    lineColumnRange_order hascending⟩
  exact fun offset h => exists_row_lineColumn text h

/-- With two breaks at one place, the largest offset is found on the line behind the last break. In
a text, the break is on the line that it ends, and the byte behind it comes later. -/
theorem lineColumn_embeds_of_breaks :
    [2, 2, 5].Pairwise (· ≤ ·) ∧
      lineColumn? [2, 2, 5] maxOffset = some ⟨3, maxOffset - 6⟩ ∧
      2 ≤ (Text.utf8 "ab\nc".toList).length ∧
      (∃ row, ((Text.utf8 "ab\nc".toList).splitOn 0x0a)[(lineColumn (lineBreaks "ab\nc") 2).line]? =
          some row ∧
        (lineColumn (lineBreaks "ab\nc") 2).column ≤ row.length) ∧
      lineColumn (lineBreaks "ab\nc") 2 < lineColumn (lineBreaks "ab\nc") 3 := by
  obtain ⟨hlocates, htexts⟩ := lineColumn_embeds
  have hascending : [2, 2, 5].Pairwise (· ≤ ·) := by decide
  have hfound := (hlocates [2, 2, 5] hascending).found maxOffset (Nat.le_refl _)
  obtain ⟨-, -, hrows, hmono, -, -⟩ := htexts "ab\nc"
  have hlength : 2 ≤ (Text.utf8 "ab\nc".toList).length := by decide
  exact ⟨hascending, hfound, hlength, hrows 2 hlength, hmono (Nat.lt_succ_self 2)⟩

end CodeAtlas
