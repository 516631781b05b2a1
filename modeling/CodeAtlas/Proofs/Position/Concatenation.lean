import CodeAtlas.Proofs.Position
import Mathlib.Data.List.DropRight
import Mathlib.Data.List.Induction

/-!
# Lines and columns behind other text

A text that is put in front of another one moves its offsets by a number of bytes, and its lines and
columns by what `LineColumn.behind` says: the lines by the number of breaks in front, and the
columns of the first line by what stands in front on that line. The other columns stay as they are.

The breaks of both texts are those of the first and, moved, those of the second
(`lineBreaks_append`). All of the first ones lie in front of the seam and none of the others does,
so that an offset has its own breaks in front of it and those of the first text
(`takeWhile_breaks_right`, `takeWhile_breaks_left`). What is left to say is where its line starts:
on the first line of the second text at the last line of the first one, whose length is known
(`lineStart_add_lastRow`). `lineColumn_append` puts all of this together.
-/

namespace CodeAtlas

/-! ## Breaks of both texts -/

/-- The breaks among bytes in two parts are those of the first and those of the second. -/
theorem lineBreaksFrom_append (first : Nat) (front back : List UInt8) :
    lineBreaksFrom first (front ++ back) =
      lineBreaksFrom first front ++ lineBreaksFrom (first + front.length) back := by
  induction front generalizing first with
  | nil => rfl
  | cons byte front ih =>
    have hlength : first + (byte :: front).length = first + 1 + front.length := by
      rw [List.length_cons]
      omega
    rw [List.cons_append, lineBreaksFrom, lineBreaksFrom, ih, hlength]
    split
    · rw [List.cons_append]
    · rfl

/-- The breaks among bytes that lie further behind are moved as far. -/
theorem lineBreaksFrom_add (distance first : Nat) (bytes : List UInt8) :
    lineBreaksFrom (distance + first) bytes =
      (lineBreaksFrom first bytes).map (distance + ·) := by
  induction bytes generalizing first with
  | nil => rfl
  | cons byte rest ih =>
    have hnext : lineBreaksFrom (distance + first + 1) rest =
        (lineBreaksFrom (first + 1) rest).map (distance + ·) := ih (first + 1)
    rw [lineBreaksFrom, lineBreaksFrom, hnext]
    split
    · rw [List.map_cons]
    · rfl

/-- Breaks lie in front of the end of the bytes. -/
theorem lt_of_mem_lineBreaksFrom {first position : Nat} {bytes : List UInt8}
    (h : position ∈ lineBreaksFrom first bytes) : position < first + bytes.length := by
  induction bytes generalizing first with
  | nil => cases h
  | cons byte rest ih =>
    have hrest : position ∈ lineBreaksFrom (first + 1) rest →
        position < first + (rest.length + 1) := by
      intro hmem
      have hbehind := ih hmem
      omega
    rw [List.length_cons]
    rw [lineBreaksFrom] at h
    split at h
    · rcases List.mem_cons.mp h with rfl | hmem
      · omega
      · exact hrest hmem
    · exact hrest h

/-- There are as many breaks as break bytes. -/
theorem length_lineBreaksFrom (first : Nat) (bytes : List UInt8) :
    (lineBreaksFrom first bytes).length = bytes.count 0x0a := by
  induction bytes generalizing first with
  | nil => rfl
  | cons byte rest ih =>
    rw [lineBreaksFrom, List.count_cons, ← ih (first + 1)]
    by_cases hbreak : byte = 0x0a
    · simp [hbreak]
    · simp [hbreak]

/-- The breaks of a text with another one behind it are its own and those of the other, moved by its
number of bytes. -/
theorem lineBreaks_append (a b : String) :
    lineBreaks (a ++ b) =
      lineBreaks a ++ (lineBreaks b).map ((Text.utf8 a.toList).length + ·) := by
  have hbytes : Text.utf8 (a ++ b).toList = Text.utf8 a.toList ++ Text.utf8 b.toList := by
    unfold Text.utf8
    rw [String.toList_append, List.flatMap_append]
  unfold lineBreaks
  rw [hbytes, lineBreaksFrom_append, Nat.zero_add]
  exact congrArg _ (lineBreaksFrom_add _ 0 _)

/-! ## The last line -/

/-- The bytes behind the last break byte, which are all if there is none. -/
def lastRow (bytes : List UInt8) : List UInt8 :=
  bytes.rtakeWhile (· ≠ 0x0a)

/-- The last line starts as many bytes in front of the end as it has. -/
theorem lineStart_add_lastRow (bytes : List UInt8) :
    lineStart (lineBreaksFrom 0 bytes) (bytes.count 0x0a) + (lastRow bytes).length =
      bytes.length := by
  -- The last byte ends the last line, or is one more byte on it.
  induction bytes using List.reverseRecOn with
  | nil => rfl
  | append_singleton bytes byte ih =>
    have hbreaks : lineBreaksFrom 0 (bytes ++ [byte]) =
        lineBreaksFrom 0 bytes ++ lineBreaksFrom bytes.length [byte] := by
      rw [lineBreaksFrom_append, Nat.zero_add]
    unfold lastRow at ih ⊢
    rw [hbreaks, List.count_append, List.length_append, List.length_singleton]
    by_cases hbreak : byte = 0x0a
    · subst hbreak
      have hlast : (lineBreaksFrom 0 bytes ++ [bytes.length])[bytes.count 0x0a]? =
          some bytes.length := by
        rw [← length_lineBreaksFrom 0 bytes]
        exact List.getElem?_concat_length
      have hrow : (bytes ++ [0x0a]).rtakeWhile (· ≠ 0x0a) = [] :=
        List.rtakeWhile_concat_neg _ _ _ (by decide)
      have hstart : lineStart (lineBreaksFrom 0 bytes ++ [bytes.length])
          (bytes.count 0x0a + 1) = bytes.length + 1 := lineStart_succ hlast
      rw [hrow]
      exact hstart
    · have hnone : lineBreaksFrom bytes.length [byte] = [] := by
        rw [lineBreaksFrom, if_neg hbreak, lineBreaksFrom]
      have hcount : List.count 0x0a [byte] = 0 := List.count_singleton.trans (by simp [hbreak])
      have hrow : (bytes ++ [byte]).rtakeWhile (· ≠ 0x0a) =
          bytes.rtakeWhile (· ≠ 0x0a) ++ [byte] :=
        List.rtakeWhile_concat_pos _ _ _ (by simpa using hbreak)
      rw [hnone, hcount, hrow, List.append_nil, Nat.add_zero, List.length_append,
        List.length_singleton, ← ih]
      omega

/-! ## Breaks in front of an offset -/

/-- Up to the seam, the breaks behind it do not lie in front of an offset. -/
theorem takeWhile_breaks_left (front back : List Nat) {seam offset : Nat} (h : offset ≤ seam) :
    (front ++ back.map (seam + ·)).takeWhile (· < offset) = front.takeWhile (· < offset) := by
  have hnone : (back.map (seam + ·)).takeWhile (· < offset) = [] := by
    cases back with
    | nil => rfl
    | cons position rest =>
      have hbehind : ¬ seam + position < offset := by omega
      rw [List.map_cons, List.takeWhile_cons, if_neg (by simpa using hbehind)]
  rw [List.takeWhile_append, hnone, List.append_nil]
  split
  · rename_i hall
    exact (List.Sublist.eq_of_length (List.takeWhile_sublist _) hall).symm
  · rfl

/-- Behind the seam, all breaks in front of it lie in front of an offset. -/
theorem takeWhile_breaks_right {front : List Nat} {seam : Nat}
    (h : ∀ position ∈ front, position < seam) (back : List Nat) (offset : Nat) :
    (front ++ back.map (seam + ·)).takeWhile (· < seam + offset) =
      front ++ (back.takeWhile (· < offset)).map (seam + ·) := by
  have hall : ∀ position ∈ front, decide (position < seam + offset) = true := by
    intro position hposition
    have hlt := h position hposition
    exact decide_eq_true (by omega)
  have hmoved : (fun position => decide (seam + position < seam + offset)) =
      fun position => decide (position < offset) := by
    funext position
    rw [decide_eq_decide]
    exact Nat.add_lt_add_iff_left
  rw [List.takeWhile_append_of_pos hall, List.takeWhile_map, ← hmoved]
  rfl

/-! ## Where lines start -/

/-- Up to the last line in front of the seam, the breaks behind it do not tell where lines start. -/
theorem lineStart_append_left {front : List Nat} (back : List Nat) {line : Nat}
    (h : line ≤ front.length) : lineStart (front ++ back) line = lineStart front line := by
  cases line with
  | zero => rfl
  | succ line =>
    show (front ++ back).getD line 0 + 1 = front.getD line 0 + 1
    rw [List.getD_eq_getElem?_getD, List.getElem?_append_left h, ← List.getD_eq_getElem?_getD]

/-- A line behind a break of the second text starts as far behind the seam as it does there. -/
theorem lineStart_append_right (front : List Nat) {back : List Nat} (seam : Nat) {line : Nat}
    (h : line < back.length) :
    lineStart (front ++ back.map (seam + ·)) (front.length + (line + 1)) =
      seam + lineStart back (line + 1) := by
  have hback : back[line]? = some back[line] := List.getElem?_eq_getElem h
  have hwhole : (front ++ back.map (seam + ·))[front.length + line]? =
      some (seam + back[line]) := by
    rw [List.getElem?_append_right (Nat.le_add_right _ _), Nat.add_sub_cancel_left,
      List.getElem?_map, hback, Option.map_some]
  calc lineStart (front ++ back.map (seam + ·)) (front.length + line + 1)
      = seam + back[line] + 1 := lineStart_succ hwhole
    _ = seam + lineStart back (line + 1) := by rw [lineStart_succ hback, Nat.add_assoc]

/-! ## Lines and columns -/

/-- Where a line and a column of a text are when bytes are put in front of the text. The first line
goes on where the last line of these bytes ends. -/
def LineColumn.behind (front : List UInt8) (position : LineColumn) : LineColumn :=
  if position.line = 0 then
    ⟨front.count 0x0a + position.line, position.column + (lastRow front).length⟩
  else ⟨front.count 0x0a + position.line, position.column⟩

/-- Up to the end of a text, offsets have the same lines and columns with another text behind it. -/
theorem lineColumn_append_left (a b : String) {offset : Nat}
    (h : offset ≤ (Text.utf8 a.toList).length) :
    lineColumn (lineBreaks (a ++ b)) offset = lineColumn (lineBreaks a) offset := by
  have hline : ((lineBreaks a).takeWhile (· < offset)).length ≤ (lineBreaks a).length :=
    (List.takeWhile_sublist _).length_le
  rw [lineBreaks_append]
  unfold lineColumn
  rw [takeWhile_breaks_left _ _ h]
  dsimp only
  rw [lineStart_append_left _ hline]

/-- The lines and columns of a text move with a text in front of it. -/
theorem lineColumn_append_right (a b : String) (offset : Nat) :
    lineColumn (lineBreaks (a ++ b)) ((Text.utf8 a.toList).length + offset) =
      (lineColumn (lineBreaks b) offset).behind (Text.utf8 a.toList) := by
  have hcount : (lineBreaks a).length = (Text.utf8 a.toList).count 0x0a := length_lineBreaksFrom 0 _
  have hinside : ∀ position ∈ lineBreaks a, position < (Text.utf8 a.toList).length := by
    intro position hposition
    have hlt := lt_of_mem_lineBreaksFrom hposition
    omega
  have hseam : lineStart (lineBreaks a) (lineBreaks a).length +
      (lastRow (Text.utf8 a.toList)).length = (Text.utf8 a.toList).length := by
    rw [hcount]
    exact lineStart_add_lastRow _
  have hline : ((lineBreaks b).takeWhile (· < offset)).length ≤ (lineBreaks b).length :=
    (List.takeWhile_sublist _).length_le
  rw [lineBreaks_append]
  unfold lineColumn LineColumn.behind
  rw [takeWhile_breaks_right hinside, List.length_append, List.length_map, ← hcount]
  generalize (Text.utf8 a.toList).length = seam at *
  generalize ((lineBreaks b).takeWhile (· < offset)).length = line at *
  dsimp only
  cases line with
  | zero =>
    -- The first line of the second text starts with the last line of the first one.
    have hstart : lineStart (lineBreaks a ++ (lineBreaks b).map (seam + ·)) (lineBreaks a).length =
        lineStart (lineBreaks a) (lineBreaks a).length :=
      lineStart_append_left _ (Nat.le_refl _)
    rw [Nat.add_zero, if_pos rfl, hstart]
    congr 1
    show seam + offset - _ = offset - 0 + _
    omega
  | succ line =>
    have hstart := lineStart_append_right (lineBreaks a) seam hline
    rw [if_neg (Nat.succ_ne_zero line), hstart, Nat.add_sub_add_left]

/-- A text in front of another one moves offsets by its number of bytes, and lines and columns by
what is on its lines.

* The breaks of both are those of the first and, moved, those of the second.
* A line of the second text comes behind as many lines as the first has breaks. On the first line of
  the second text, the bytes on the last line of the first one come in front of a column.
* Up to the seam, lines and columns are as without the second text.
* All of them are found on words. -/
theorem lineColumn_append (a b : String) :
    lineBreaks (a ++ b) = lineBreaks a ++ (lineBreaks b).map ((Text.utf8 a.toList).length + ·) ∧
    (∀ offset, lineColumn (lineBreaks (a ++ b)) ((Text.utf8 a.toList).length + offset) =
      (lineColumn (lineBreaks b) offset).behind (Text.utf8 a.toList)) ∧
    (∀ offset ≤ (Text.utf8 a.toList).length,
      lineColumn (lineBreaks (a ++ b)) offset = lineColumn (lineBreaks a) offset) ∧
    ∀ offset ≤ maxOffset, lineColumn? (lineBreaks (a ++ b)) offset =
      some (lineColumn (lineBreaks (a ++ b)) offset) :=
  ⟨lineBreaks_append a b, lineColumn_append_right a b, fun _ h => lineColumn_append_left a b h,
    fun _ h => lineColumn?_eq (pairwise_lineBreaks (a ++ b)) h⟩

/-- The end of the first line behind a text of two lines, the largest offset, and the seam. -/
theorem lineColumn_append_of_two_lines :
    lineColumn (lineBreaks ("ab\ncd" ++ "e\nf")) 6 = ⟨1, 3⟩ ∧
      lineColumn? (lineBreaks ("ab\ncd" ++ "e\nf")) maxOffset = some ⟨2, maxOffset - 7⟩ ∧
      lineColumn (lineBreaks ("ab\ncd" ++ "e\nf")) 5 = ⟨1, 2⟩ := by
  obtain ⟨-, hbehind, hfront, hwords⟩ := lineColumn_append "ab\ncd" "e\nf"
  have hseam : 5 ≤ (Text.utf8 "ab\ncd".toList).length := by decide
  exact ⟨hbehind 1, hwords maxOffset (Nat.le_refl _), hfront 5 hseam⟩

end CodeAtlas
