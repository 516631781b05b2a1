/-!
# Cutting texts by their bytes

Where a part of a text is given by its number of bytes in UTF-8, `cutBytes` cuts it off the front,
provided that it ends between two characters.
-/

namespace CodeAtlas.Text

/-- The characters that make up the first `size` bytes of a text, and those behind them. -/
def cutBytes : Nat → List Char → Option (List Char × List Char)
  | 0, text => some ([], text)
  | _ + 1, [] => none
  | size + 1, c :: rest =>
    if c.utf8Size ≤ size + 1 then
      (cutBytes (size + 1 - c.utf8Size) rest).map fun (cut, rest) => (c :: cut, rest)
    else none

/-- A cut takes nothing away. -/
theorem append_of_cutBytes {size : Nat} {text cut rest : List Char}
    (h : cutBytes size text = some (cut, rest)) : cut ++ rest = text := by
  induction text generalizing size cut with
  | nil =>
    cases size with
    | zero => simp_all [cutBytes]
    | succ => simp [cutBytes] at h
  | cons c text ih =>
    cases size with
    | zero => simp_all [cutBytes]
    | succ size =>
      rw [cutBytes] at h
      split at h
      · obtain ⟨⟨shorter, behind⟩, found, same⟩ := Option.map_eq_some_iff.1 h
        obtain ⟨rfl, rfl⟩ := Prod.mk.inj same
        rw [List.cons_append, ih found]
      · simp at h

end CodeAtlas.Text
