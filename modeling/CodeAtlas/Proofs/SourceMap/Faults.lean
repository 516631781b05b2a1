import CodeAtlas.Proofs.SourceMap.Inheritance
import Mathlib.Order.WellFounded

/-!
# What is wrong with a segment

A segment of a written source map is refused for one reason, although it may violate several rules.
The rules are a matter of the text of the segment and of whether it is the first one (`Violates`),
and they are checked in a fixed order: the number of fields, and then the fields from the start of
the range to the modifier depth. The first check that fails makes the complaint
(`IsFirstViolation`).

`readSegment_eq_error_iff` says that this is the fault of a segment, and
`exists_readSegment_iff_obeys` that a segment without a violation is read.
-/

namespace CodeAtlas

open Text

/-! ## The checks of a segment -/

/-- A rule that a segment violates, and the complaint about it. The segment is the one with a given
index. -/
inductive Violates (index : Nat) (segment : List Char) : SegmentFault → Prop
  /-- It has more than five fields. -/
  | tooManyFields (long : 5 < (fields ':' segment).length) :
      Violates index segment (.tooManyFields (fields ':' segment).length)
  /-- It is the first one and does not give the start, the length or the file. -/
  | missing (field : SegmentField) (isFirst : index = 0)
      (required : field ∈ [SegmentField.start, .length, .file])
      (empty : field.textIn segment = []) : Violates index segment (.missing field)
  /-- It gives a field with a text that denotes no value. -/
  | invalid (field : SegmentField) (given : field.textIn segment ≠ [])
      (unreadable : ∀ value, ¬ field.Denotes (field.textIn segment) value) :
      Violates index segment (.invalid field (field.textIn segment))

/-- The number of checks that come before the one that makes a complaint. -/
def SegmentFault.rank : SegmentFault → Nat
  | .tooManyFields _ => 0
  | .missing field => field.place + 1
  | .invalid field _ => field.place + 1

/-- The complaint of the first check that a segment does not pass. -/
structure IsFirstViolation (index : Nat) (segment : List Char) (fault : SegmentFault) : Prop where
  /-- The check makes it. -/
  violates : Violates index segment fault
  /-- No check before it makes one. -/
  least : ∀ other, Violates index segment other → fault.rank ≤ other.rank

/-- A segment that violates a rule has a first violation. -/
theorem exists_isFirstViolation {index : Nat} {segment : List Char}
    (h : ∃ fault, Violates index segment fault) :
    ∃ fault, IsFirstViolation index segment fault := by
  obtain ⟨fault, hviolates, hleast⟩ :=
    (measure SegmentFault.rank).wf.has_min {fault | Violates index segment fault} h
  exact ⟨fault, hviolates, fun other hother => Nat.le_of_not_lt (hleast other hother)⟩

/-- A field is refused if it has to inherit a value and there is none, or if it is given by a text
that denotes none. -/
theorem readField_eq_error_iff {field : SegmentField} {inherited : Option field.Value}
    {text : List Char} {fault : SegmentFault} :
    readField field field.read inherited text = .error fault ↔
      (text = [] ∧ inherited = none ∧ fault = .missing field) ∨
      (text ≠ [] ∧ (∀ value, ¬ field.Denotes text value) ∧ fault = .invalid field text) := by
  have hread : (∀ value, ¬ field.Denotes text value) ↔ field.read text = none := by
    rw [Option.eq_none_iff_forall_ne_some]
    exact forall_congr' fun value => not_congr SegmentField.read_eq_some_iff.symm
  rw [hread]
  unfold readField
  by_cases htext : text = []
  · cases inherited <;> simp [htext, eq_comm]
  · cases field.read text <;> simp [htext, eq_comm]

/-- A field has no value to inherit if and only if nothing is in front of its segment and it has to
be given there. -/
theorem inherited_eq_none_iff {field : SegmentField} {before : Option Entry} :
    field.inherited before = none ↔
      before = none ∧ field ∈ [SegmentField.start, .length, .file] := by
  cases before with
  | some e => exact iff_of_false nofun nofun
  | none =>
    rw [eq_self_iff_true, true_and]
    cases field with
    | start => exact iff_of_true rfl (by decide)
    | length => exact iff_of_true rfl (by decide)
    | file => exact iff_of_true rfl (by decide)
    | jump => exact iff_of_false nofun (by decide)
    | depth => exact iff_of_false nofun (by decide)

section

variable {before : Option Entry} {index : Nat} {segment : List Char} {fault : SegmentFault}
  (hindex : before = none ↔ index = 0)

include hindex

/-- The complaints about a segment are that it has too many fields, and those of its fields. -/
theorem violates_iff :
    Violates index segment fault ↔
      (5 < (fields ':' segment).length ∧
        fault = .tooManyFields (fields ':' segment).length) ∨
      ∃ field : SegmentField, field.readIn before segment = .error fault := by
  simp only [SegmentField.readIn, readField_eq_error_iff, inherited_eq_none_iff, hindex]
  constructor
  · intro h
    cases h with
    | tooManyFields long => exact .inl ⟨long, rfl⟩
    | missing field isFirst required empty =>
      exact .inr ⟨field, .inl ⟨empty, ⟨isFirst, required⟩, rfl⟩⟩
    | invalid field given unreadable => exact .inr ⟨field, .inr ⟨given, unreadable, rfl⟩⟩
  · rintro (⟨long, rfl⟩ | ⟨field, ⟨empty, ⟨isFirst, required⟩, rfl⟩ | ⟨given, unreadable, rfl⟩⟩)
    · exact .tooManyFields long
    · exact .missing field isFirst required empty
    · exact .invalid field given unreadable

omit hindex in
/-- The check of a field comes after those of the fields in front of it. -/
theorem rank_of_readIn {field : SegmentField} (h : field.readIn before segment = .error fault) :
    fault.rank = field.place + 1 := by
  rcases readField_eq_error_iff.mp h with ⟨-, -, rfl⟩ | ⟨-, -, rfl⟩
  · rfl
  · rfl

omit hindex in
/-- The first field that is refused decides about a segment that has no more than five. -/
theorem readSegment_of_readIn {field : SegmentField} (hcount : (fields ':' segment).length ≤ 5)
    (hfault : field.readIn before segment = .error fault)
    (hfront : ∀ other : SegmentField, other.place < field.place →
      ∃ value, other.readIn before segment = .ok value) :
    readSegment before segment = .error fault := by
  rw [readSegment_eq, if_neg (Nat.not_lt.mpr hcount)]
  -- Reading passes the fields in front, and comes to the fault.
  cases field with
  | start =>
    rw [hfault]
    rfl
  | length =>
    obtain ⟨_, hstart⟩ := hfront .start (by decide)
    rw [hstart, hfault]
    rfl
  | file =>
    obtain ⟨_, hstart⟩ := hfront .start (by decide)
    obtain ⟨_, hlength⟩ := hfront .length (by decide)
    rw [hstart, hlength, hfault]
    rfl
  | jump =>
    obtain ⟨_, hstart⟩ := hfront .start (by decide)
    obtain ⟨_, hlength⟩ := hfront .length (by decide)
    obtain ⟨_, hfile⟩ := hfront .file (by decide)
    rw [hstart, hlength, hfile, hfault]
    rfl
  | depth =>
    obtain ⟨_, hstart⟩ := hfront .start (by decide)
    obtain ⟨_, hlength⟩ := hfront .length (by decide)
    obtain ⟨_, hfile⟩ := hfront .file (by decide)
    obtain ⟨_, hjump⟩ := hfront .jump (by decide)
    rw [hstart, hlength, hfile, hjump, hfault]
    rfl

/-- A segment is refused for its first violation. -/
theorem readSegment_of_isFirstViolation (h : IsFirstViolation index segment fault) :
    readSegment before segment = .error fault := by
  rcases (violates_iff hindex).mp h.violates with ⟨hlong, rfl⟩ | ⟨field, hfault⟩
  · rw [readSegment_eq, if_pos hlong]
  · have hrank : fault.rank = field.place + 1 := rank_of_readIn hfault
    refine readSegment_of_readIn ?_ hfault fun other hplace => ?_
    · -- Too many fields would be the first complaint.
      by_contra hcount
      have hleast := h.least _ (.tooManyFields (Nat.lt_of_not_le hcount))
      rw [hrank] at hleast
      exact absurd hleast (Nat.not_succ_le_zero _)
    · cases hother : other.readIn before segment with
      | ok value => exact ⟨value, rfl⟩
      | error fault' =>
        have hleast := h.least fault' ((violates_iff hindex).mpr (.inr ⟨other, hother⟩))
        rw [hrank, rank_of_readIn hother] at hleast
        omega

/-- A segment is read if it violates no rule. -/
theorem exists_readSegment_iff_obeys :
    (∃ e, readSegment before segment = .ok e) ↔ ∀ fault, ¬ Violates index segment fault := by
  constructor
  · rintro ⟨e, he⟩ fault hviolates
    obtain ⟨fault', hfirst⟩ := exists_isFirstViolation ⟨fault, hviolates⟩
    rw [readSegment_of_isFirstViolation hindex hfirst] at he
    cases he
  · intro h
    have hvalue : ∀ field : SegmentField, ∃ value, field.readIn before segment = .ok value := by
      intro field
      cases hfield : field.readIn before segment with
      | ok value => exact ⟨value, rfl⟩
      | error fault => exact absurd ((violates_iff hindex).mpr (.inr ⟨field, hfield⟩)) (h fault)
    -- The entry that has for each field the value it is read as.
    refine ⟨.ofFields fun field => (hvalue field).choose, readSegment_eq_ok_iff.mpr ⟨?_, ?_⟩⟩
    · by_contra hcount
      exact h _ (.tooManyFields (Nat.lt_of_not_le hcount))
    · intro field
      rw [Entry.get_ofFields]
      exact (hvalue field).choose_spec

/-- A segment is refused for its first violation, and for nothing else. -/
theorem readSegment_eq_error_iff :
    readSegment before segment = .error fault ↔ IsFirstViolation index segment fault := by
  refine ⟨fun h => ?_, readSegment_of_isFirstViolation hindex⟩
  have hviolates : ∃ fault, Violates index segment fault := by
    by_contra hobeys
    obtain ⟨e, he⟩ := (exists_readSegment_iff_obeys hindex).mpr (not_exists.mp hobeys)
    rw [he] at h
    cases h
  obtain ⟨fault', hfirst⟩ := exists_isFirstViolation hviolates
  rw [readSegment_of_isFirstViolation hindex hfirst] at h
  cases h
  exact hfirst

end

/-- A segment has only one first violation. -/
theorem IsFirstViolation.unique {index : Nat} {segment : List Char} {fault fault' : SegmentFault}
    (h : IsFirstViolation index segment fault) (h' : IsFirstViolation index segment fault') :
    fault = fault' := by
  -- Reading the segment comes to one fault, behind any entry if it is not the first segment.
  obtain ⟨before, hbefore⟩ : ∃ before : Option Entry, before = none ↔ index = 0 := by
    cases index with
    | zero => exact ⟨none, iff_of_true rfl rfl⟩
    | succ index => exact ⟨some ⟨0, 0, 0, .regular, 0⟩, iff_of_false nofun (Nat.succ_ne_zero _)⟩
  have hread := readSegment_of_isFirstViolation hbefore h
  rw [readSegment_of_isFirstViolation hbefore h'] at hread
  cases hread
  rfl

end CodeAtlas
