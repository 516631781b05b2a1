import CodeAtlas.Text.Blank
import Mathlib.Data.List.TakeWhile

/-!
# White space around a text

`trim` takes white space off at one end and then at the other. What is left is said here without the
two walks: the text is what is left with white space around it, and what is left has none at its
ends (`Trims`). There is exactly one such rest (`trim_eq_iff`).
-/

namespace CodeAtlas.Text

/-- All characters of a text are white space. -/
def AllBlank (text : List Char) : Prop :=
  ∀ c ∈ text, isBlank c = true

/-- A text has no white space at its ends. -/
structure BareEnds (text : List Char) : Prop where
  /-- The first character is none. -/
  head : ∀ c, text.head? = some c → isBlank c = false
  /-- Nor is the last one. -/
  last : ∀ c, text.getLast? = some c → isBlank c = false

/-- A text is another one, which has no white space at its ends, with white space around it. -/
structure Trims (text core : List Char) : Prop where
  /-- There is white space in front and behind, or nothing. -/
  blanks : ∃ before behind, text = before ++ (core ++ behind) ∧ AllBlank before ∧ AllBlank behind
  /-- The other text has none at its ends. -/
  bareEnds : BareEnds core

/-- A text that starts with no white space is left as it is in front. -/
theorem dropWhile_isBlank_eq_self {text : List Char}
    (h : ∀ c, text.head? = some c → isBlank c = false) : text.dropWhile isBlank = text := by
  cases text with
  | nil => rfl
  | cons c rest =>
    have hc : isBlank c = false := h c rfl
    rw [List.dropWhile_cons, if_neg (by simp [hc])]

/-- White space at the end of a text is taken off. -/
theorem trimEnd_append {core behind : List Char}
    (hlast : ∀ c, core.getLast? = some c → isBlank c = false) (hbehind : AllBlank behind) :
    trimEnd (core ++ behind) = core := by
  have hhead : ∀ c, core.reverse.head? = some c → isBlank c = false := by
    intro c hc
    rw [List.head?_reverse] at hc
    exact hlast c hc
  have hreverse : ∀ c ∈ behind.reverse, isBlank c = true :=
    fun c hc => hbehind c (List.mem_reverse.mp hc)
  unfold trimEnd
  rw [List.reverse_append, List.dropWhile_append_of_pos hreverse, dropWhile_isBlank_eq_self hhead,
    List.reverse_reverse]

/-- White space around a text is taken off. -/
theorem trim_append {before core behind : List Char} (hbefore : AllBlank before)
    (hcore : BareEnds core) (hbehind : AllBlank behind) :
    trim (before ++ (core ++ behind)) = core := by
  unfold trim
  rw [List.dropWhile_append_of_pos hbefore]
  cases core with
  | nil =>
    -- Nothing is left in front, so that there is nothing to take off behind.
    have hnone : behind.dropWhile isBlank = [] := by
      rw [List.dropWhile_eq_nil_iff]
      exact hbehind
    rw [List.nil_append, hnone]
    rfl
  | cons c rest =>
    have hhead : ∀ d, ((c :: rest) ++ behind).head? = some d → isBlank d = false :=
      fun d hd => hcore.head d hd
    rw [dropWhile_isBlank_eq_self hhead]
    exact trimEnd_append hcore.last hbehind

/-- The last character that is left at the end of a text is no white space. -/
theorem getLast?_trimEnd {text : List Char} {c : Char} (h : (trimEnd text).getLast? = some c) :
    isBlank c = false := by
  unfold trimEnd at h
  rw [List.getLast?_reverse] at h
  have hnot := List.head?_dropWhile_not isBlank text.reverse
  rw [h] at hnot
  simpa using hnot

/-- What is left of a text is at the front of it, with white space behind. -/
theorem exists_trimEnd_append (text : List Char) :
    ∃ behind, text = trimEnd text ++ behind ∧ AllBlank behind := by
  refine ⟨(text.reverse.takeWhile isBlank).reverse, ?_, fun c hc => ?_⟩
  · unfold trimEnd
    rw [← List.reverse_append, List.takeWhile_append_dropWhile, List.reverse_reverse]
  · exact List.mem_takeWhile_imp (List.mem_reverse.mp hc)

/-- What is left of a text has no white space at its ends, and the text has nothing else around it.
-/
theorem trims_trim (text : List Char) : Trims text (trim text) := by
  obtain ⟨behind, hrest, hbehind⟩ := exists_trimEnd_append (text.dropWhile isBlank)
  refine ⟨⟨text.takeWhile isBlank, behind, ?_, ?_, hbehind⟩, ?_, ?_⟩
  · calc text
        = text.takeWhile isBlank ++ text.dropWhile isBlank := List.takeWhile_append_dropWhile.symm
      _ = text.takeWhile isBlank ++ (trim text ++ behind) := congrArg _ hrest
  · exact fun c hc => List.mem_takeWhile_imp hc
  · -- The first character that is left is the first behind the white space in front.
    intro c hc
    have hfirst : (text.dropWhile isBlank).head? = some c := by
      have happend := congrArg List.head? hrest
      have hcore : (trimEnd (text.dropWhile isBlank)).head? = some c := hc
      rw [happend, List.head?_append, hcore]
      rfl
    have hnot := List.head?_dropWhile_not isBlank text
    rw [hfirst] at hnot
    simpa using hnot
  · exact fun c hc => getLast?_trimEnd hc

/-- A text without white space around it is what is left of it, and nothing else is. -/
theorem trim_eq_iff {text core : List Char} : trim text = core ↔ Trims text core := by
  constructor
  · rintro rfl
    exact trims_trim text
  · rintro ⟨⟨before, behind, rfl, hbefore, hbehind⟩, hcore⟩
    exact trim_append hbefore hcore hbehind

/-- A text without white space at its ends is left as it is. -/
theorem BareEnds.trims {core : List Char} (h : BareEnds core) : Trims core core where
  blanks := ⟨[], [], by simp, fun _ hc => absurd hc List.not_mem_nil,
    fun _ hc => absurd hc List.not_mem_nil⟩
  bareEnds := h

/-- A text without any white space has none at its ends. -/
theorem bareEnds_of_forall {text : List Char} (h : ∀ c ∈ text, isBlank c = false) :
    BareEnds text where
  head := fun c hc => h c (List.mem_of_head? hc)
  last := fun c hc => h c (List.mem_of_getLast? hc)

end CodeAtlas.Text
