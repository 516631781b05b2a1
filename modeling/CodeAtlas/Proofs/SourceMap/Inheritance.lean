import CodeAtlas.Proofs.SourceMap

/-!
# Inherited fields

A written source map is read segment by segment, and a field that a segment does not give is taken
over from the entry before. What comes of this is said without the entries in between
(`SourceMap.decode_inherits`): which texts are read at all, how many entries there are, and that the
value of a field stands in the nearest segment up to the entry that gives the field. One step is
`get_of_readSegment`, and the way back to the nearest segment is an induction on the index
(`get_of_readSegments`).
-/

namespace CodeAtlas

open Text

/-! ## Which texts are read -/

/-- Segments are read if and only if each of them is a segment and every field that the first one
does not give inherits a value. -/
theorem exists_readSegments_iff {before : Option Entry} {index : Nat}
    {segments : List (List Char)} :
    (∃ entries, readSegments before index segments = .ok entries) ↔
      (∀ segment ∈ segments, IsSegment segment) ∧
        ∀ first ∈ segments.head?, ∀ field : SegmentField, field.textIn first = [] →
          ∃ value, field.inherited before = some value := by
  induction segments generalizing before index with
  | nil => simp [readSegments]
  | cons segment rest ih =>
    have hrest : ∀ e, (∃ more, readSegments (some e) (index + 1) rest = .ok more) ↔
        ∀ segment ∈ rest, IsSegment segment := by
      intro e
      rw [ih]
      -- Behind an entry every field inherits a value.
      exact and_iff_left fun first _ field _ => ⟨e.get field, rfl⟩
    rw [List.forall_mem_cons, List.head?_cons]
    constructor
    · rintro ⟨entries, h⟩
      obtain ⟨e, more, hsegment, hmore, -⟩ := readSegments_cons_eq_ok_iff.mp h
      obtain ⟨hfirst, hinherited⟩ := exists_readSegment_iff.mp ⟨e, hsegment⟩
      refine ⟨⟨hfirst, (hrest e).mp ⟨more, hmore⟩⟩, fun first hhead => ?_⟩
      rw [← Option.some.inj hhead]
      exact hinherited
    · rintro ⟨⟨hfirst, hothers⟩, hinherited⟩
      obtain ⟨e, hsegment⟩ := exists_readSegment_iff.mpr ⟨hfirst, hinherited segment rfl⟩
      obtain ⟨more, hmore⟩ := (hrest e).mpr hothers
      exact ⟨e :: more, readSegments_cons_eq_ok_iff.mpr ⟨e, more, hsegment, hmore, rfl⟩⟩

/-- Every field has a value in the first segment if and only if it gives the three that have no
initial value. -/
theorem forall_initial_iff {first : List Char} :
    (∀ field : SegmentField, field.textIn first = [] → ∃ value, field.initial = some value) ↔
      ∀ field ∈ [SegmentField.start, .length, .file], field.textIn first ≠ [] := by
  constructor
  · intro h field hfield hempty
    obtain ⟨value, hvalue⟩ := h field hempty
    cases field with
    | start => cases hvalue
    | length => cases hvalue
    | file => cases hvalue
    | jump => simp at hfield
    | depth => simp at hfield
  · intro h field hempty
    cases field with
    | start => exact absurd hempty (h .start (by simp))
    | length => exact absurd hempty (h .length (by simp))
    | file => exact absurd hempty (h .file (by simp))
    | jump => exact ⟨.regular, rfl⟩
    | depth => exact ⟨0, rfl⟩

/-! ## Entry by entry -/

/-- The entry in front of the one with a given index, if `before` is in front of the first. -/
def entryBefore (before : Option Entry) (entries : List Entry) : Nat → Option Entry
  | 0 => before
  | index + 1 => entries[index]?

/-- There are as many entries as segments, and each is read behind the one in front of it. -/
theorem readSegments_steps {before : Option Entry} {index : Nat} {segments : List (List Char)}
    {entries : List Entry} (h : readSegments before index segments = .ok entries) :
    entries.length = segments.length ∧ ∀ (i : Nat) (e : Entry), entries[i]? = some e →
      readSegment (entryBefore before entries i) (segments.getD i []) = .ok e := by
  induction segments generalizing before index entries with
  | nil =>
    cases h
    exact ⟨rfl, fun i e he => by cases he⟩
  | cons segment rest ih =>
    obtain ⟨first, more, hfirst, hmore, rfl⟩ := readSegments_cons_eq_ok_iff.mp h
    obtain ⟨hlength, hsteps⟩ := ih hmore
    refine ⟨congrArg (· + 1) hlength, fun i e he => ?_⟩
    cases i with
    | zero =>
      cases he
      exact hfirst
    | succ i =>
      have hbefore : entryBefore before (first :: more) (i + 1) = entryBefore (some first) more i := by
        cases i <;> rfl
      rw [hbefore]
      exact hsteps i e he

/-! ## The nearest segment -/

/-- The text of a field in the segment with a given index. -/
def SegmentField.textAt (field : SegmentField) (segments : List (List Char)) (index : Nat) :
    List Char :=
  field.textIn (segments.getD index [])

/-- Segment `near` is the nearest one up to the segment `index` that gives a field. -/
structure SegmentField.IsNearest (field : SegmentField) (segments : List (List Char))
    (index near : Nat) : Prop where
  /-- It is not behind the segment. -/
  le : near ≤ index
  /-- It gives the field. -/
  given : field.textAt segments near ≠ []
  /-- No segment behind it does, up to the segment. -/
  last : ∀ between, near < between → between ≤ index → field.textAt segments between = []

section

variable {field : SegmentField} {segments : List (List Char)} {index near : Nat}

/-- A segment that gives a field is the nearest one up to itself. -/
theorem SegmentField.IsNearest.eq_of_given (h : field.IsNearest segments index near)
    (hgiven : field.textAt segments index ≠ []) : near = index := by
  rcases Nat.lt_or_eq_of_le h.le with hlt | heq
  · exact absurd (h.last index hlt (Nat.le_refl index)) hgiven
  · exact heq

/-- The nearest segment up to one that does not give a field is the nearest one up to the segment in
front of it. -/
theorem SegmentField.IsNearest.of_empty (h : field.IsNearest segments (index + 1) near)
    (hempty : field.textAt segments (index + 1) = []) : field.IsNearest segments index near := by
  have hne : near ≠ index + 1 := fun heq => h.given (heq ▸ hempty)
  have hle : near ≤ index + 1 := h.le
  exact ⟨by omega, h.given, fun between hlow hhigh => h.last between hlow (by omega)⟩

end

/-- An entry has the value of a field that the nearest segment gives, or the initial value if none
does. -/
theorem get_of_readSegments {segments : List (List Char)} {entries : List Entry}
    (h : readSegments none 0 segments = .ok entries) {index : Nat} {e : Entry}
    (he : entries[index]? = some e) (field : SegmentField) :
    (∀ near, field.IsNearest segments index near →
      field.Denotes (field.textAt segments near) (e.get field)) ∧
    ((∀ near ≤ index, field.textAt segments near = []) → field.initial = some (e.get field)) := by
  obtain ⟨-, hsteps⟩ := readSegments_steps h
  -- From each entry to the one in front of it, until a segment gives the field.
  induction index generalizing e with
  | zero =>
    rcases get_of_readSegment (hsteps 0 e he) field with ⟨hempty, hinherited⟩ | ⟨hgiven, hdenotes⟩
    · refine ⟨fun near hnear => ?_, fun _ => hinherited⟩
      obtain rfl : near = 0 := Nat.le_zero.mp hnear.le
      exact absurd hempty hnear.given
    · refine ⟨fun near hnear => ?_, fun hnone => absurd (hnone 0 (Nat.le_refl 0)) hgiven⟩
      rw [hnear.eq_of_given hgiven]
      exact hdenotes
  | succ index ih =>
    rcases get_of_readSegment (hsteps (index + 1) e he) field with
      ⟨hempty, hinherited⟩ | ⟨hgiven, hdenotes⟩
    · -- The entry in front has the same value, and it has it from the same segment.
      obtain ⟨hlt, -⟩ := List.getElem?_eq_some_iff.mp he
      have hbefore : entries[index]? = some entries[index] := List.getElem?_eq_getElem (by omega)
      have hsame : entries[index].get field = e.get field := by
        have hentry : entryBefore none entries (index + 1) = some entries[index] := hbefore
        rw [hentry] at hinherited
        exact Option.some.inj hinherited
      obtain ⟨hnearest, hinitial⟩ := ih hbefore
      rw [hsame] at hnearest hinitial
      exact ⟨fun near hnear => hnearest near (hnear.of_empty hempty),
        fun hnone => hinitial fun near hle => hnone near (by omega)⟩
    · refine ⟨fun near hnear => ?_, fun hnone => absurd (hnone _ (Nat.le_refl _)) hgiven⟩
      rw [hnear.eq_of_given hgiven]
      exact hdenotes

/-! ## Source maps -/

/-- The segments of a written source map. -/
def segmentsOf (text : String) : List (List Char) :=
  fields ';' text.toList

/-- A text is read as a source map if and only if it is empty, or each of its segments has no more
than five fields of which those that are not empty denote values, and the first segment gives the
start, the length and the file. A text that is not empty has one entry more than it has semicolons.
The value of an entry in a field is the one given by the nearest segment up to the entry that gives
the field. If there is none, the field is the jump, which is regular, or the depth, which is zero. -/
theorem SourceMap.decode_inherits (text : String) :
    ((∃ m, decode text = .ok m) ↔ text = "" ∨
      (∀ segment ∈ segmentsOf text, IsSegment segment) ∧
        ∀ first ∈ (segmentsOf text).head?, ∀ field ∈ [SegmentField.start, .length, .file],
          field.textIn first ≠ []) ∧
    ∀ m, text ≠ "" → decode text = .ok m →
      m.size = text.toList.count ';' + 1 ∧
      ∀ (index : Nat) (e : Entry), m.entryAt index = some e → ∀ field : SegmentField,
        (∀ near, field.IsNearest (segmentsOf text) index near →
          field.Denotes (field.textAt (segmentsOf text) near) (e.get field)) ∧
        ((∀ near ≤ index, field.textAt (segmentsOf text) near = []) →
          (field = .jump ∧ e.jump = .regular) ∨ (field = .depth ∧ e.depth = 0)) := by
  refine ⟨?_, fun m htext h => ?_⟩
  · by_cases htext : text = ""
    · rw [htext]
      exact ⟨fun _ => .inl rfl, fun _ => ⟨_, decode_empty⟩⟩
    · have hdecode : (∃ m, decode text = .ok m) ↔
          ∃ entries, readSegments none 0 (segmentsOf text) = .ok entries :=
        ⟨fun ⟨m, h⟩ => ⟨m.entries, (decode_eq_ok_iff htext).mp h⟩,
          fun ⟨entries, h⟩ => ⟨⟨entries⟩, (decode_eq_ok_iff htext).mpr h⟩⟩
      rw [hdecode, exists_readSegments_iff, or_iff_right htext]
      -- Nothing is in front of the first segment, so its fields inherit the initial values.
      exact and_congr_right fun _ => forall₂_congr fun first _ => forall_initial_iff
  · have hread := (decode_eq_ok_iff htext).mp h
    have hsize : m.entries.length = (fields ';' text.toList).length := (readSegments_steps hread).1
    refine ⟨hsize.trans (length_fields ';' text.toList), fun index e he field => ?_⟩
    obtain ⟨hnearest, hinitial⟩ := get_of_readSegments hread he field
    refine ⟨hnearest, fun hnone => ?_⟩
    have hvalue := hinitial hnone
    cases field with
    | start => cases hvalue
    | length => cases hvalue
    | file => cases hvalue
    | jump => exact .inl ⟨rfl, (Option.some.inj hvalue).symm⟩
    | depth => exact .inr ⟨rfl, (Option.some.inj hvalue).symm⟩

/-- The second segment gives a length and no start, so the second entry has its own length and the
start of the first. -/
theorem decode_inherits_of_length :
    ∃ m e, SourceMap.decode "100:10:0:-:1;:20" = .ok m ∧ m.size = 2 ∧ m.entryAt 1 = some e ∧
      IsNatural ['1', '0', '0'] e.start.toNat ∧ IsNatural ['2', '0'] e.length.toNat := by
  have hdecode : SourceMap.decode "100:10:0:-:1;:20" =
      .ok ⟨[⟨100, 10, 0, .regular, 1⟩, ⟨100, 20, 0, .regular, 1⟩]⟩ := rfl
  obtain ⟨hsize, hfields⟩ := (SourceMap.decode_inherits "100:10:0:-:1;:20").2 _ (by decide) hdecode
  have hstart : SegmentField.start.IsNearest (segmentsOf "100:10:0:-:1;:20") 1 0 :=
    ⟨by decide, by decide, fun between hlow hhigh => by
      obtain rfl : between = 1 := by omega
      rfl⟩
  have hlength : SegmentField.length.IsNearest (segmentsOf "100:10:0:-:1;:20") 1 1 :=
    ⟨by decide, by decide, fun between hlow hhigh => by omega⟩
  exact ⟨_, _, hdecode, hsize, rfl, (hfields 1 _ rfl .start).1 0 hstart,
    (hfields 1 _ rfl .length).1 1 hlength⟩

end CodeAtlas
