import CodeAtlas.SourceMap
import Mathlib.Data.List.Induction

/-!
# The entry that describes an offset

Ranges of entries may overlap, be empty or reach behind the largest offset, and they are in no
order. `SourceMap.covering` prefers the first range that has the offset. This is a matter of the
offset and the range alone: the cap on the end of a range makes no difference to an offset below the
largest one, and the largest one is in no range (`Entry.contains_iff_covers`,
`Entry.contains_maxOffset`).

Where no range has the offset, a single pass over the entries keeps the best one so far, and a later
one wins a tie. What is left is the last of the entries with the greatest start
(`isLastGreatest_foldl_later`). `SourceMap.covering_spec` puts the two together.
-/

namespace CodeAtlas

/-! ## Ranges -/

/-- An offset lies in the range of an entry, the end of which is not capped. -/
def Entry.Covers (e : Entry) (offset : Nat) : Prop :=
  e.start.toNat ≤ offset ∧ offset < e.start.toNat + e.length.toNat

/-- Capping the end of a range makes no difference to the offsets below the largest one. -/
theorem Entry.contains_iff_covers {e : Entry} {offset : Nat} (h : offset < maxOffset) :
    e.contains offset = true ↔ e.Covers offset := by
  have hcap : offset < e.stop ↔ offset < e.start.toNat + e.length.toNat := by
    unfold stop
    omega
  unfold contains Covers
  rw [Bool.and_eq_true, decide_eq_true_eq, decide_eq_true_eq, hcap]

/-- The largest offset is in no range. -/
theorem Entry.contains_maxOffset (e : Entry) : e.contains maxOffset = false := by
  have hcap : e.stop ≤ maxOffset := Nat.min_le_right _ _
  unfold contains
  rw [Bool.and_eq_false_iff, decide_eq_false_iff_not, decide_eq_false_iff_not]
  exact .inr (Nat.not_lt.mpr hcap)

/-- No entry starts behind the largest offset. -/
theorem Entry.start_le_maxOffset (e : Entry) : e.start.toNat ≤ maxOffset :=
  Nat.le_pred_of_lt e.start.toNat_lt_size

/-- The first of the entries whose ranges have an offset. -/
def IsFirstCovering (entries : List Entry) (offset : Nat) (e : Entry) : Prop :=
  ∃ before after, entries = before ++ e :: after ∧ e.Covers offset ∧
    ∀ other ∈ before, ¬ other.Covers offset

/-- Looking for a range that has an offset below the largest one finds the first that does. -/
theorem find?_contains_eq_some_iff {entries : List Entry} {offset : Nat} (h : offset < maxOffset)
    {e : Entry} :
    entries.find? (·.contains offset) = some e ↔ IsFirstCovering entries offset e := by
  rw [List.find?_eq_some_iff_append]
  constructor
  · rintro ⟨hcontains, before, after, hentries, hbefore⟩
    refine ⟨before, after, hentries, (Entry.contains_iff_covers h).mp hcontains, ?_⟩
    intro other hother hcovers
    have hnot : other.contains offset = false := by simpa using hbefore other hother
    rw [(Entry.contains_iff_covers h).mpr hcovers] at hnot
    cases hnot
  · rintro ⟨before, after, hentries, hcovers, hbefore⟩
    refine ⟨(Entry.contains_iff_covers h).mpr hcovers, before, after, hentries, ?_⟩
    intro other hother
    have hnot : ¬ other.contains offset = true := fun hcontains =>
      hbefore other hother ((Entry.contains_iff_covers h).mp hcontains)
    simpa using hnot

/-- No range is found for an offset below the largest one if and only if none has it. -/
theorem find?_contains_eq_none_iff {entries : List Entry} {offset : Nat} (h : offset < maxOffset) :
    entries.find? (·.contains offset) = none ↔ ∀ e ∈ entries, ¬ e.Covers offset := by
  rw [List.find?_eq_none]
  exact forall₂_congr fun e _ => not_congr (Entry.contains_iff_covers h)

/-! ## The greatest start -/

/-- The last of the entries with the greatest start: none in front of it starts later, and those
behind it start earlier. -/
def IsLastGreatest (entries : List Entry) (e : Entry) : Prop :=
  ∃ before after, entries = before ++ e :: after ∧
    (∀ other ∈ before, other.start ≤ e.start) ∧ ∀ other ∈ after, other.start < e.start

namespace IsLastGreatest

variable {entries : List Entry} {e other : Entry}

/-- It is one of the entries. -/
theorem mem (h : IsLastGreatest entries e) : e ∈ entries := by
  obtain ⟨before, after, rfl, -, -⟩ := h
  exact List.mem_append_right before List.mem_cons_self

/-- No entry starts later. -/
theorem le (h : IsLastGreatest entries e) (hother : other ∈ entries) : other.start ≤ e.start := by
  obtain ⟨before, after, rfl, hbefore, hafter⟩ := h
  rcases List.mem_append.mp hother with hfront | htail
  · exact hbefore other hfront
  · rcases List.mem_cons.mp htail with rfl | hbehind
    · exact UInt64.le_refl _
    · exact UInt64.le_of_lt (hafter other hbehind)

/-- An entry behind all others takes over if none of them starts later. -/
theorem concat_of_le (h : IsLastGreatest entries e) (hle : e.start ≤ other.start) :
    IsLastGreatest (entries ++ [other]) other :=
  ⟨entries, [], rfl, fun _ hmem => UInt64.le_trans (h.le hmem) hle,
    fun _ hmem => absurd hmem List.not_mem_nil⟩

/-- An entry behind all others that starts earlier than the greatest start changes nothing. -/
theorem concat_of_lt (h : IsLastGreatest entries e) (hlt : other.start < e.start) :
    IsLastGreatest (entries ++ [other]) e := by
  obtain ⟨before, after, rfl, hbefore, hafter⟩ := h
  refine ⟨before, after ++ [other], by rw [List.append_assoc, List.cons_append], hbefore, ?_⟩
  exact List.forall_mem_append.mpr ⟨hafter, List.forall_mem_singleton.mpr hlt⟩

/-- An entry in front of another one that does not start earlier is the same, if those behind it all
start earlier. -/
theorem eq_of_front {between after after' : List Entry}
    (hplaces : e :: after = between ++ other :: after')
    (hafter : ∀ item ∈ after, item.start < e.start) (hle : e.start ≤ other.start) : e = other := by
  cases between with
  | nil => exact (List.cons_eq_cons.mp hplaces).1
  | cons first rest =>
    obtain ⟨rfl, hrest⟩ := List.cons_eq_cons.mp hplaces
    have hbehind : other ∈ after := hrest ▸ List.mem_append_right rest List.mem_cons_self
    exact absurd hle (UInt64.not_le.mpr (hafter other hbehind))

/-- There is only one. -/
theorem unique (h : IsLastGreatest entries e) (h' : IsLastGreatest entries other) : e = other := by
  have hle : e.start ≤ other.start := h'.le h.mem
  have hle' : other.start ≤ e.start := h.le h'.mem
  obtain ⟨before, after, hentries, -, hafter⟩ := h
  obtain ⟨before', after', hentries', -, hafter'⟩ := h'
  -- One of the two stands in front of the other, or they are at the same place.
  rcases List.append_eq_append_iff.mp (hentries.symm.trans hentries') with
    ⟨between, -, hplaces⟩ | ⟨between, -, hplaces⟩
  · exact eq_of_front hplaces hafter hle
  · exact (eq_of_front hplaces hafter' hle').symm

end IsLastGreatest

/-- A pass over entries that keeps the later of two comes to the last one with the greatest start,
and to nothing only if there are no entries. -/
theorem isLastGreatest_foldl_later (entries : List Entry) :
    (entries = [] ∧ entries.foldl SourceMap.later none = none) ∨
      ∃ e, entries.foldl SourceMap.later none = some e ∧ IsLastGreatest entries e := by
  induction entries using List.reverseRecOn with
  | nil => exact .inl ⟨rfl, rfl⟩
  | append_singleton entries other ih =>
    right
    rw [List.foldl_append, List.foldl_cons, List.foldl_nil]
    rcases ih with ⟨rfl, hnone⟩ | ⟨best, hbest, hgreatest⟩
    · rw [hnone]
      exact ⟨other, rfl, [], [], rfl, fun _ hmem => absurd hmem List.not_mem_nil,
        fun _ hmem => absurd hmem List.not_mem_nil⟩
    · rw [hbest]
      by_cases hle : best.start ≤ other.start
      · exact ⟨other, if_pos hle, hgreatest.concat_of_le hle⟩
      · exact ⟨best, if_neg hle, hgreatest.concat_of_lt (UInt64.not_le.mp hle)⟩

/-- What is kept is the last entry with the greatest start. -/
theorem foldl_later_eq_some_iff {entries : List Entry} {e : Entry} :
    entries.foldl SourceMap.later none = some e ↔ IsLastGreatest entries e := by
  rcases isLastGreatest_foldl_later entries with ⟨rfl, hnone⟩ | ⟨kept, hkept, hgreatest⟩
  · rw [hnone]
    exact ⟨nofun, fun h => absurd h.mem List.not_mem_nil⟩
  · rw [hkept, Option.some.injEq]
    exact ⟨fun heq => heq ▸ hgreatest, hgreatest.unique⟩

/-- Nothing is kept if and only if there are no entries. -/
theorem foldl_later_eq_none_iff {entries : List Entry} :
    entries.foldl SourceMap.later none = none ↔ entries = [] := by
  rcases isLastGreatest_foldl_later entries with ⟨rfl, hnone⟩ | ⟨kept, hkept, hgreatest⟩
  · exact iff_of_true hnone rfl
  · rw [hkept]
    exact iff_of_false nofun (List.ne_nil_of_mem hgreatest.mem)

namespace SourceMap

/-! ## Maps -/

/-- The entries of a map that do not start behind an offset. -/
def startingBy (m : SourceMap) (offset : Nat) : List Entry :=
  m.entries.filter fun e => e.start.toNat ≤ offset

/-- No entry starts behind the largest offset. -/
theorem startingBy_maxOffset (m : SourceMap) : m.startingBy maxOffset = m.entries :=
  List.filter_eq_self.mpr fun e _ => decide_eq_true e.start_le_maxOffset

/-- There is none if and only if the offset is in front of every start. -/
theorem startingBy_eq_nil_iff {m : SourceMap} {offset : Nat} :
    m.startingBy offset = [] ↔ ∀ e ∈ m.entries, offset < e.start.toNat := by
  unfold startingBy
  rw [List.filter_eq_nil_iff]
  refine forall₂_congr fun e _ => ?_
  rw [decide_eq_true_eq, Nat.not_le]

/-- A range that has the offset decides, and without one the starts that are not behind the offset
do. -/
theorem covering_cases (m : SourceMap) (offset : Nat) :
    (∃ e, m.entries.find? (·.contains offset) = some e ∧ m.covering offset = some e) ∨
      (m.entries.find? (·.contains offset) = none ∧
        m.covering offset = (m.startingBy offset).foldl later none) := by
  unfold covering
  cases hfind : m.entries.find? (·.contains offset) with
  | some e => exact .inl ⟨e, rfl, rfl⟩
  | none => exact .inr ⟨rfl, rfl⟩

/-- The entry for an offset below the largest one is the first one whose range has the offset, or
the last one with the greatest start not behind it if no range has it. -/
theorem covering_eq_some_iff {m : SourceMap} {offset : Nat} (h : offset < maxOffset) {e : Entry} :
    m.covering offset = some e ↔
      IsFirstCovering m.entries offset e ∨
      ((∀ other ∈ m.entries, ¬ other.Covers offset) ∧
        IsLastGreatest (m.startingBy offset) e) := by
  rcases m.covering_cases offset with ⟨found, hfind, hcovering⟩ | ⟨hnone, hcovering⟩
  · have hsome : ¬ ∀ other ∈ m.entries, ¬ other.Covers offset := fun hall => by
      rw [(find?_contains_eq_none_iff h).mpr hall] at hfind
      cases hfind
    rw [hcovering, ← hfind, find?_contains_eq_some_iff h]
    exact (or_iff_left fun ⟨hall, _⟩ => hsome hall).symm
  · have hnot : ¬ IsFirstCovering m.entries offset e := fun hfirst => by
      rw [(find?_contains_eq_some_iff h).mpr hfirst] at hnone
      cases hnone
    rw [hcovering, foldl_later_eq_some_iff, or_iff_right hnot]
    exact (and_iff_right ((find?_contains_eq_none_iff h).mp hnone)).symm

/-- There is no entry for an offset below the largest one if and only if every entry starts behind
it. -/
theorem covering_eq_none_iff {m : SourceMap} {offset : Nat} (h : offset < maxOffset) :
    m.covering offset = none ↔ ∀ e ∈ m.entries, offset < e.start.toNat := by
  rcases m.covering_cases offset with ⟨found, hfind, hcovering⟩ | ⟨-, hcovering⟩
  · -- The range that has the offset does not start behind it.
    have hcontains := List.find?_some hfind
    have hcovers : found.Covers offset := (Entry.contains_iff_covers h).mp hcontains
    rw [hcovering]
    refine iff_of_false nofun fun hbehind => ?_
    have hstart := hbehind found (List.mem_of_find?_eq_some hfind)
    exact absurd hcovers.1 (Nat.not_le.mpr hstart)
  · rw [hcovering, foldl_later_eq_none_iff, startingBy_eq_nil_iff]

/-- For the largest offset only the starts count. -/
theorem covering_maxOffset (m : SourceMap) :
    m.covering maxOffset = m.entries.foldl later none := by
  rcases m.covering_cases maxOffset with ⟨found, hfind, -⟩ | ⟨-, hcovering⟩
  · have hcontains := List.find?_some hfind
    rw [found.contains_maxOffset] at hcontains
    cases hcontains
  · rw [hcovering, startingBy_maxOffset]

/-- The entry that describes an offset, for every map.

* For an offset below the largest one it is the first entry whose range, with an end that is not
  capped, has the offset. If there is none, it is the last of the entries with the greatest start
  not behind the offset. There is no such entry if and only if the map has no entries or the offset
  is in front of every start.
* The largest offset is in no range. The entry for it is the last of all entries with the greatest
  start, and there is none only for the map without entries. -/
theorem covering_spec (m : SourceMap) :
    (∀ offset < maxOffset,
      (∀ e, m.covering offset = some e ↔
        IsFirstCovering m.entries offset e ∨
        ((∀ other ∈ m.entries, ¬ other.Covers offset) ∧
          IsLastGreatest (m.startingBy offset) e)) ∧
      (m.covering offset = none ↔
        m.entries = [] ∨ ∀ e ∈ m.entries, offset < e.start.toNat)) ∧
    (∀ e ∈ m.entries, e.contains maxOffset = false) ∧
    (∀ e, m.covering maxOffset = some e ↔ IsLastGreatest m.entries e) ∧
    (m.covering maxOffset = none ↔ m.entries = []) := by
  refine ⟨fun offset h => ⟨fun e => covering_eq_some_iff h, ?_⟩,
    fun e _ => e.contains_maxOffset, fun e => ?_, ?_⟩
  · rw [covering_eq_none_iff h]
    refine (or_iff_right_of_imp fun hempty => ?_).symm
    rw [hempty]
    exact fun e he => absurd he List.not_mem_nil
  · rw [covering_maxOffset, foldl_later_eq_some_iff]
  · rw [covering_maxOffset, foldl_later_eq_none_iff]

/-- Three entries, of which the first and the last start together. -/
def overlapping : SourceMap :=
  ⟨[⟨5, 4, 0, .regular, 0⟩, ⟨0, 9, 1, .regular, 0⟩, ⟨5, 0, 2, .regular, 0⟩]⟩

/-- Two of the ranges have the offset `7`, and the first of them decides. None has the offset `9` or
the largest one, and of the two entries that start last the one behind decides. -/
theorem covering_spec_of_overlap :
    overlapping.covering 7 = some ⟨5, 4, 0, .regular, 0⟩ ∧
      overlapping.covering 9 = some ⟨5, 0, 2, .regular, 0⟩ ∧
      overlapping.covering maxOffset = some ⟨5, 0, 2, .regular, 0⟩ := by
  obtain ⟨hbelow, -, hlargest, -⟩ := overlapping.covering_spec
  have hseven := (hbelow 7 (by decide)).1 ⟨5, 4, 0, .regular, 0⟩
  have hnine := (hbelow 9 (by decide)).1 ⟨5, 0, 2, .regular, 0⟩
  have hlast : IsLastGreatest overlapping.entries ⟨5, 0, 2, .regular, 0⟩ :=
    ⟨[⟨5, 4, 0, .regular, 0⟩, ⟨0, 9, 1, .regular, 0⟩], [], rfl, by decide, by decide⟩
  refine ⟨hseven.mpr (.inl ⟨[], _, rfl, ?_, fun _ hmem => absurd hmem List.not_mem_nil⟩),
    hnine.mpr (.inr ⟨?_, hlast⟩), (hlargest _).mpr hlast⟩
  · exact ⟨by decide, by decide⟩
  · unfold Entry.Covers
    decide

end SourceMap

end CodeAtlas
