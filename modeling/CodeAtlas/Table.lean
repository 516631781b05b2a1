/-!
# Tables

A table holds at most one value for each key, in no order that matters. The caches are tables, and
so is the code that was recorded for each address. What an operation does is said through `get?`.
-/

namespace CodeAtlas

/-- A finite map, kept as a list of pairs of which the first with a key counts. -/
structure Table (α β : Type) where
  /-- The pairs. -/
  pairs : List (α × β)

namespace Table

variable {α β : Type} [DecidableEq α]

/-- The table without values. -/
def empty : Table α β :=
  ⟨[]⟩

/-- The value of a key. -/
def get? (t : Table α β) (key : α) : Option β :=
  t.pairs.lookup key

/-- Whether a key has a value. -/
def contains (t : Table α β) (key : α) : Bool :=
  (t.get? key).isSome

/-- The table without the value of a key. -/
def erase (t : Table α β) (key : α) : Table α β :=
  ⟨t.pairs.filter fun pair => pair.1 ≠ key⟩

/-- The table with a new value for a key, in place of the value it has. -/
def insert (t : Table α β) (key : α) (value : β) : Table α β :=
  ⟨(key, value) :: (t.erase key).pairs⟩

@[simp] theorem get?_empty (key : α) : (empty : Table α β).get? key = none := rfl

/-- Erasing a key takes away its value and no other. -/
theorem get?_erase (t : Table α β) (key other : α) :
    (t.erase key).get? other = if other = key then none else t.get? other := by
  obtain ⟨pairs⟩ := t
  simp only [erase, get?]
  induction pairs with
  | nil => simp
  | cons pair rest ih =>
    obtain ⟨k, v⟩ := pair
    by_cases at_key : k = key
    · subst at_key
      by_cases same : other = k
      · subst same
        simpa using ih
      · have differ : (other == k) = false := by simpa using same
        simpa [List.filter_cons, List.lookup_cons, differ, same] using ih
    · by_cases same : other = k
      · subst same
        simp [at_key]
      · have differ : (other == k) = false := by simpa using same
        simpa [List.filter_cons, List.lookup_cons, at_key, differ] using ih

/-- Inserting sets the value of the key and of no other. -/
theorem get?_insert (t : Table α β) (key other : α) (value : β) :
    (t.insert key value).get? other = if other = key then some value else t.get? other := by
  have erased := get?_erase t key other
  simp only [get?] at erased
  by_cases same : other = key
  · subst same
    simp [insert, get?]
  · have differ : (other == key) = false := by simpa using same
    simp [insert, get?, List.lookup_cons, differ, erased, same]

end Table

end CodeAtlas
