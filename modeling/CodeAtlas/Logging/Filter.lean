import CodeAtlas.Log
import CodeAtlas.Logging.Directive

/-!
# Filters of log records

A filter is written as directives separated by commas. Of the directives that speak of a report the
most specific one decides: it lets the report through when this matters at least as much as its
level. A directive with a longer target is more specific, then one with a field, and then the one
whose field comes last in the order of names. A report of which no directive speaks is dropped.

A filter is read in two ways. `Filter.ofText` refuses a text with a directive that cannot be read,
and `Filter.readable` passes over such directives.
-/

namespace CodeAtlas.Logging

open Log (Level)

/-- Directives, of which a later one replaces an earlier one that is as specific. -/
abbrev Filter := List Directive

/-! ## Reading filters -/

/-- The texts of the directives of a filter. -/
def directiveTexts (text : String) : List (List Char) :=
  (Text.fields ',' text.toList).filter (· ≠ [])

/-- The filter that a text is. -/
def Filter.ofText (text : String) : Option Filter :=
  (directiveTexts text).mapM Directive.ofText

/-- The filter of the directives in a text that can be read. -/
def Filter.readable (text : String) : Filter :=
  (directiveTexts text).filterMap Directive.ofText

/-- The filter that lets reports of all targets through from a level on. -/
def Filter.from (level : Level) : Filter :=
  [{ threshold := some level }]

/-! ## Applying filters -/

/-- Of two directives that speak of a report, the more specific one, or the second. -/
def preferred (best : Option Directive) (directive : Directive) : Option Directive :=
  match best with
  | none => some directive
  | some b => if b.isMoreSpecific directive then some b else some directive

/-- Whether a filter lets a report through. -/
def Filter.passes (filter : Filter) (report : Report) : Bool :=
  match (filter.filter fun d => d.speaksOf report).foldl preferred none with
  | some { threshold := some threshold, .. } => threshold.rank ≤ report.level.rank
  | _ => false

/-- A text of which every directive can be read gives the same filter in both ways. -/
theorem Filter.readable_of_ofText {text : String} {filter : Filter}
    (h : Filter.ofText text = some filter) : Filter.readable text = filter := by
  rw [Filter.ofText] at h
  rw [Filter.readable]
  generalize directiveTexts text = texts at h ⊢
  induction texts generalizing filter with
  | nil => simpa using h
  | cons first rest ih =>
    simp only [List.mapM_cons, Option.bind_eq_bind, Option.bind_eq_some_iff, Option.pure_def,
      Option.some.injEq] at h
    obtain ⟨directive, read, others, read_others, rfl⟩ := h
    rw [List.filterMap_cons, read, ih read_others]

end CodeAtlas.Logging
