/-!
# Separated fields

A list of texts is written as one text with a separator between neighbours. `fields` takes such a
text apart and `joined` puts one together. Every text has at least one field, the empty text having
the empty field, and a separator at either end has an empty field beside it.
-/

namespace CodeAtlas.Text

/-- The fields of a text, cut at every `separator`. -/
def fields (separator : Char) : List Char → List (List Char)
  | [] => [[]]
  | c :: rest =>
    if c = separator then
      [] :: fields separator rest
    else
      match fields separator rest with
      | [] => [[c]]
      | first :: others => (c :: first) :: others

/-- Texts written one behind the other with `separator` between neighbours. -/
def joined (separator : Char) : List (List Char) → List Char
  | [] => []
  | [text] => text
  | text :: others => text ++ separator :: joined separator others

/-- There is always a first field. -/
theorem fields_ne_nil (separator : Char) (text : List Char) : fields separator text ≠ [] := by
  cases text with
  | nil => simp [fields]
  | cons c rest =>
    rw [fields]
    split
    · simp
    · split <;> simp

/-- Joining the fields of a text gives the text back. -/
theorem joined_fields (separator : Char) (text : List Char) :
    joined separator (fields separator text) = text := by
  induction text with
  | nil => rfl
  | cons c rest ih =>
    rw [fields]
    have some_field := fields_ne_nil separator rest
    split
    · rename_i is_separator
      cases field_list : fields separator rest with
      | nil => exact absurd field_list some_field
      | cons first others =>
        rw [field_list] at ih
        simp [joined, ih, is_separator]
    · cases field_list : fields separator rest with
      | nil => exact absurd field_list some_field
      | cons first others =>
        rw [field_list] at ih
        cases others with
        | nil => simpa [joined] using ih
        | cons second more => simpa [joined] using ih

/-- Cutting a text into fields is splitting the list of its characters. -/
theorem fields_eq_splitOn (separator : Char) (text : List Char) :
    fields separator text = text.splitOn separator := by
  induction text with
  | nil => simp [fields]
  | cons c rest ih =>
    rw [fields, List.splitOn_cons_eq_if_modifyHead, ih]
    by_cases h : c = separator
    · simp [h]
    · rw [if_neg h, if_neg (by simpa using h)]
      cases hsplit : rest.splitOn separator with
      | nil => exact absurd hsplit (List.splitOn_ne_nil _ _)
      | cons first others => rfl

/-- Joining texts is putting the separator between the lists of their characters. -/
theorem joined_eq_intercalate (separator : Char) (texts : List (List Char)) :
    joined separator texts = [separator].intercalate texts := by
  induction texts with
  | nil => rfl
  | cons text others ih =>
    cases others with
    | nil => simp [joined]
    | cons second more =>
      rw [joined, ih, List.intercalate_cons_of_ne_nil (List.cons_ne_nil _ _)]
      · simp
      · exact List.cons_ne_nil _ _

/-- Texts without the separator are the fields of the text they are joined to. -/
theorem fields_joined {separator : Char} {texts : List (List Char)} (hne : texts ≠ [])
    (h : ∀ text ∈ texts, separator ∉ text) : fields separator (joined separator texts) = texts := by
  rw [fields_eq_splitOn, joined_eq_intercalate, List.splitOn_intercalate separator h hne]

/-- There is one more field than there are separators. -/
theorem length_fields (separator : Char) (text : List Char) :
    (fields separator text).length = text.count separator + 1 := by
  induction text with
  | nil => rfl
  | cons c rest ih =>
    rw [fields]
    split
    · rename_i hc
      rw [List.length_cons, ih, hc, List.count_cons_self]
    · rename_i hc
      rw [List.count_cons_of_ne hc, ← ih]
      cases hfields : fields separator rest with
      | nil => exact absurd hfields (fields_ne_nil _ _)
      | cons first others => rfl

/-- Two texts with a separator between them have the fields of the first one and then those of the
second one. -/
theorem fields_append (separator : Char) (text other : List Char) :
    fields separator (text ++ separator :: other) =
      fields separator text ++ fields separator other := by
  simp only [fields_eq_splitOn]
  exact List.splitOn_append_cons_self text other

/-- No field has the separator. -/
theorem not_mem_of_mem_fields {separator : Char} {text field : List Char}
    (h : field ∈ fields separator text) : separator ∉ field := by
  induction text generalizing field with
  | nil =>
    rw [fields, List.mem_singleton] at h
    rw [h]
    exact List.not_mem_nil
  | cons c rest ih =>
    rw [fields] at h
    split at h
    · rcases List.mem_cons.mp h with rfl | hrest
      · exact List.not_mem_nil
      · exact ih hrest
    · rename_i hc
      cases hfields : fields separator rest with
      | nil => exact absurd hfields (fields_ne_nil _ _)
      | cons first others =>
        rw [hfields] at h ih
        rcases List.mem_cons.mp h with rfl | hothers
        · rw [List.mem_cons, not_or]
          exact ⟨Ne.symm hc, ih List.mem_cons_self⟩
        · exact ih (List.mem_cons_of_mem _ hothers)

/-- A character of a joined text is the separator or from one of the texts. -/
theorem mem_joined {separator c : Char} {texts : List (List Char)} (h : c ∈ joined separator texts) :
    c = separator ∨ ∃ text ∈ texts, c ∈ text := by
  induction texts with
  | nil => cases h
  | cons text others ih =>
    cases others with
    | nil => exact .inr ⟨text, List.mem_cons_self, h⟩
    | cons second more =>
      rw [joined] at h
      · rcases List.mem_append.mp h with htext | hrest
        · exact .inr ⟨text, List.mem_cons_self, htext⟩
        · rcases List.mem_cons.mp hrest with hseparator | hothers
          · exact .inl hseparator
          · rcases ih hothers with hseparator | ⟨other, hother, hc⟩
            · exact .inl hseparator
            · exact .inr ⟨other, List.mem_cons_of_mem _ hother, hc⟩
      · exact List.cons_ne_nil _ _

end CodeAtlas.Text
