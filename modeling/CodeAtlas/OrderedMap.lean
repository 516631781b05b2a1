/-!
# Maps in the order of their keys

The files of a set of artifacts, and the contracts of a file, are visited in the order of their
keys. `OrderedMap` holds them in this order. How keys compare is given by a function that sends
each key to its place in an order, so that two spellings of one key may stand at one place.
Inserting at a place that is taken replaces the value and keeps the key that is there.
-/

namespace CodeAtlas

variable {α β γ κ : Type} [Ord κ]

/-- Inserts a pair where it belongs among pairs in ascending order. -/
def insertInOrder (place : α → κ) (key : α) (value : β) : List (α × β) → List (α × β)
  | [] => [(key, value)]
  | (k, v) :: rest =>
    match compare (place key) (place k) with
    | .lt => (key, value) :: (k, v) :: rest
    | .eq => (k, value) :: rest
    | .gt => (k, v) :: insertInOrder place key value rest

/-- What is in the list after an insertion stands at the place of the new pair or was there. -/
theorem mem_insertInOrder {place : α → κ} {key : α} {value : β} {pairs : List (α × β)}
    {pair : α × β} (h : pair ∈ insertInOrder place key value pairs) :
    pair.1 = key ∨ ∃ v, (pair.1, v) ∈ pairs := by
  induction pairs with
  | nil =>
    have : pair = (key, value) := by simpa [insertInOrder] using h
    exact .inl (by rw [this])
  | cons first rest ih =>
    obtain ⟨k, v⟩ := first
    rw [insertInOrder] at h
    split at h
    · rcases List.mem_cons.1 h with rfl | old
      · exact .inl rfl
      · exact .inr ⟨pair.2, old⟩
    · rcases List.mem_cons.1 h with rfl | old
      · exact .inr ⟨v, List.mem_cons_self⟩
      · exact .inr ⟨pair.2, List.mem_cons_of_mem _ old⟩
    · rcases List.mem_cons.1 h with rfl | old
      · exact .inr ⟨v, List.mem_cons_self⟩
      · rcases ih old with same | ⟨w, old⟩
        · exact .inl same
        · exact .inr ⟨w, List.mem_cons_of_mem _ old⟩

/-- Pairs in strictly ascending order of the places of their keys. -/
def Ascending (place : α → κ) (pairs : List (α × β)) : Prop :=
  pairs.Pairwise fun a b => compare (place a.1) (place b.1) = .lt

/-- An insertion keeps the order. -/
theorem Ascending.insertInOrder [Std.TransOrd κ] {place : α → κ} {pairs : List (α × β)}
    (h : Ascending place pairs) (key : α) (value : β) :
    Ascending place (insertInOrder place key value pairs) := by
  induction pairs with
  | nil => exact List.pairwise_singleton _ _
  | cons first rest ih =>
    obtain ⟨k, v⟩ := first
    obtain ⟨before, rest_ordered⟩ := List.pairwise_cons.1 h
    rw [CodeAtlas.insertInOrder]
    split
    · rename_i less
      refine List.pairwise_cons.2 ⟨fun pair member => ?_, h⟩
      rcases List.mem_cons.1 member with rfl | old
      · exact less
      · exact Std.TransCmp.lt_trans less (before pair old)
    · exact List.pairwise_cons.2 ⟨fun pair member => before pair member, rest_ordered⟩
    · rename_i greater
      refine List.pairwise_cons.2 ⟨fun pair member => ?_, ih rest_ordered⟩
      rcases mem_insertInOrder member with same | ⟨w, old⟩
      · rw [same]
        exact Std.OrientedCmp.gt_iff_lt.1 greater
      · exact before (pair.1, w) old

/-- A map whose pairs stand in the order of the places of their keys. -/
structure OrderedMap (α β : Type) {κ : Type} [Ord κ] (place : α → κ) where
  /-- The pairs of the map. -/
  entries : List (α × β)
  /-- They ascend. -/
  ascending : Ascending place entries

namespace OrderedMap

variable {place : α → κ}

/-- The map without pairs. -/
def empty : OrderedMap α β place :=
  ⟨[], List.Pairwise.nil⟩

/-- The value at the place of a key. -/
def get? (m : OrderedMap α β place) (key : α) : Option β :=
  (m.entries.find? fun pair => compare (place key) (place pair.1) == .eq).map (·.2)

/-- The map with each value replaced by what a function makes of it. -/
def map (m : OrderedMap α β place) (f : β → γ) : OrderedMap α γ place :=
  ⟨m.entries.map fun (key, value) => (key, f value), by
    unfold Ascending
    rw [List.pairwise_map]
    exact m.ascending⟩

/-- The map without the values that do not pass a test. -/
def filter (m : OrderedMap α β place) (keep : β → Bool) : OrderedMap α β place :=
  ⟨m.entries.filter (keep ·.2), m.ascending.filter _⟩

/-- A key has only one value. -/
theorem value_unique [Std.ReflOrd κ] (m : OrderedMap α β place) {key : α} {v w : β}
    (hv : (key, v) ∈ m.entries) (hw : (key, w) ∈ m.entries) : v = w := by
  obtain ⟨entries, hascending⟩ := m
  simp only at hv hw
  induction entries with
  | nil => cases hv
  | cons first rest ih =>
    obtain ⟨hfirst, hrest⟩ := List.pairwise_cons.mp hascending
    -- Nothing stands in front of itself.
    have hirreflexive : ∀ value, first.1 = key → (key, value) ∉ rest := by
      rintro value rfl hmem
      have hless := hfirst _ hmem
      rw [Std.ReflOrd.compare_self] at hless
      cases hless
    rcases List.mem_cons.mp hv with hfirst_v | hrest_v
    · rcases List.mem_cons.mp hw with hfirst_w | hrest_w
      · exact (Prod.mk.inj (hfirst_v.trans hfirst_w.symm)).2
      · exact absurd hrest_w (hirreflexive w (congrArg Prod.fst hfirst_v.symm))
    · rcases List.mem_cons.mp hw with hfirst_w | hrest_w
      · exact absurd hrest_v (hirreflexive v (congrArg Prod.fst hfirst_w.symm))
      · exact ih hrest hrest_v hrest_w

variable [Std.TransOrd κ]

/-- The map with a value at the place of a key. -/
def insert (m : OrderedMap α β place) (key : α) (value : β) : OrderedMap α β place :=
  ⟨insertInOrder place key value m.entries, m.ascending.insertInOrder key value⟩

/-- The map of a list of pairs, inserted one after the other. -/
def ofList (pairs : List (α × β)) : OrderedMap α β place :=
  pairs.foldl (fun m pair => m.insert pair.1 pair.2) empty

/-- The value at the place of a key is that of the pair that stands there. -/
theorem get?_eq_some_iff {m : OrderedMap α β place} {key : α} {value : β} :
    m.get? key = some value ↔
      ∃ same, (same, value) ∈ m.entries ∧ compare (place key) (place same) = .eq := by
  obtain ⟨entries, hascending⟩ := m
  unfold get?
  simp only [Option.map_eq_some_iff, List.find?_eq_some_iff_append, beq_iff_eq]
  constructor
  · rintro ⟨⟨same, found⟩, ⟨hplace, front, rest, hentries, -⟩, hvalue⟩
    cases hvalue
    exact ⟨same, hentries ▸ List.mem_append_right _ List.mem_cons_self, hplace⟩
  · rintro ⟨same, hmem, hplace⟩
    obtain ⟨front, rest, hentries⟩ := List.append_of_mem hmem
    refine ⟨(same, value), ⟨hplace, front, rest, hentries, fun earlier hearlier => ?_⟩, rfl⟩
    -- A pair in front of this one stands at a smaller place.
    have hless : compare (place earlier.1) (place same) = .lt := by
      rw [hentries] at hascending
      exact (List.pairwise_append.mp hascending).2.2 earlier hearlier _ List.mem_cons_self
    have hdiffer : compare (place key) (place earlier.1) ≠ .eq := by
      intro heq
      have hsame : compare (place earlier.1) (place same) = .eq :=
        Std.TransCmp.eq_trans (Std.OrientedCmp.eq_symm heq) hplace
      rw [hsame] at hless
      cases hless
    simpa using hdiffer

/-- The first pair that passes a test is the one with the smallest key of those that do. -/
theorem find?_entries_eq_some_iff {m : OrderedMap α β place} {test : α × β → Bool}
    {pair : α × β} :
    m.entries.find? test = some pair ↔
      pair ∈ m.entries ∧ test pair = true ∧
        ∀ other ∈ m.entries, test other = true → other = pair ∨
          compare (place pair.1) (place other.1) = .lt := by
  obtain ⟨entries, hascending⟩ := m
  simp only [List.find?_eq_some_iff_append]
  constructor
  · rintro ⟨htest, front, rest, rfl, hfront⟩
    refine ⟨List.mem_append_right _ List.mem_cons_self, htest, fun other hother hpasses => ?_⟩
    rcases List.mem_append.mp hother with hmem | hmem
    · have hfails : (!test other) = true := hfront other hmem
      rw [hpasses] at hfails
      cases hfails
    · rcases List.mem_cons.mp hmem with rfl | hrest
      · exact .inl rfl
      · exact .inr (List.rel_of_pairwise_cons (List.pairwise_append.mp hascending).2.1 hrest)
  · rintro ⟨hmem, htest, hleast⟩
    obtain ⟨front, rest, rfl⟩ := List.append_of_mem hmem
    refine ⟨htest, front, rest, rfl, fun earlier hearlier => ?_⟩
    have hless : compare (place earlier.1) (place pair.1) = .lt :=
      (List.pairwise_append.mp hascending).2.2 earlier hearlier _ List.mem_cons_self
    rw [Bool.not_eq_true', Bool.eq_false_iff]
    intro hpasses
    rcases hleast earlier (List.mem_append_left _ hearlier) hpasses with rfl | hgreater
    · rw [Std.ReflOrd.compare_self] at hless
      cases hless
    · have hself : compare (place pair.1) (place pair.1) = .lt :=
        Std.TransCmp.lt_trans hgreater hless
      rw [Std.ReflOrd.compare_self] at hself
      cases hself

end OrderedMap

end CodeAtlas
