import CodeAtlas.Log
import CodeAtlas.Pattern.Parser
import CodeAtlas.Text.Alphanumeric
import CodeAtlas.Text.Blank
import CodeAtlas.Text.Cut
import CodeAtlas.Text.Fields
import CodeAtlas.Text.Hex
import CodeAtlas.Text.Numeral

/-!
# Directives of log filters

A directive is a level, a target, or a target with a level behind an equals sign. The target of a
report is the part of a program that makes it, and a directive speaks of every target that starts
with its own, and without a target of all. Without a level it lets everything through.

Behind the target there may be brackets with the name of a span and, in braces, a field. The field
may have a value behind an equals sign, which is a number or a pattern. A directive that names a
span, or a value of the field, speaks of what happens within spans, and since nobody here enters
one, of no report. A directive that names a field alone speaks of the reports with such a field.
-/

namespace CodeAtlas.Logging

open Log (Level)

/-- A record with its target. -/
structure Report where
  /-- The part of the program that reports it. -/
  target : String
  /-- How much it matters. -/
  level : Level
  /-- What happened. -/
  message : String
  /-- The names of its fields, the message being one of them. -/
  fields : List String := ["message"]
  deriving DecidableEq, Repr

/-- The least level that is let through, `none` when none is. -/
abbrev Threshold := Option Level

/-- A field that a directive names. -/
structure FieldTest where
  /-- The name of the field. -/
  name : List Char
  /-- The value that it asks for. -/
  value : Option (List Char)
  deriving DecidableEq, Repr

/-- What a filter says about some reports. -/
structure Directive where
  /-- How the targets start of which it speaks. -/
  target : List Char := []
  /-- The span of which it speaks. -/
  span : Option (List Char) := none
  /-- The field that has to be there. -/
  field : Option FieldTest := none
  /-- The least level that is let through. -/
  threshold : Threshold := some .trace
  deriving DecidableEq, Repr

/-! ## Levels and fields -/

/-- A text in lower case. -/
def lowered (text : List Char) : List Char :=
  text.map Char.toLower

/-- The level that a text names, in any letter case or by its number. -/
def threshold? (text : List Char) : Option Threshold :=
  match (Text.readNatural 6 text).toOption with
  | some n =>
    some ([none, some .error, some .warn, some .info, some .debug, some .trace].getD n none)
  | none =>
    let name := lowered text
    if name = "off".toList then some none
    else (Level.all.find? fun level => lowered level.name.toList = name).map some

/-- The level that stands behind an equals sign, where nothing is like no level at all. -/
def levelBehind (text : List Char) : Option Threshold :=
  if text = [] then some (some .trace) else threshold? text

/-- Whether a text can be the value that a field is asked for. -/
def FieldTest.isValue (text : List Char) : Bool :=
  Text.isReal text || (Pattern.ofText text).isSome

/-- A field by its name, or by its name and value with an equals sign between them. What stands
behind a second equals sign does not matter. -/
def FieldTest.ofText (text : List Char) : Option FieldTest :=
  match Text.fields '=' text with
  | name :: value :: _ => if isValue value then some ⟨name, some value⟩ else none
  | _ => some ⟨text, none⟩

/-! ## Reading directives -/

/-- What remains of a directive. Where its parts end is found in the text without the white space at
its ends, and the parts are cut out of the whole text at the same distances, counted in bytes. -/
structure Remains where
  /-- What remains of the text without white space at its ends. -/
  scanned : List Char
  /-- What remains of the whole text. -/
  whole : List Char

namespace Remains

/-- What remains behind the first character found, which has one byte. -/
def next (remains : Remains) : Option Remains :=
  (Text.cutBytes 1 remains.whole).map fun (_, whole) => ⟨remains.scanned.drop 1, whole⟩

/-- The part in front of the first character that ends it, and what remains from there. -/
def part (ends : Char → Bool) (remains : Remains) : Option (List Char × Remains) :=
  let found := remains.scanned.takeWhile fun c => !ends c
  (Text.cutBytes (Text.utf8 found).length remains.whole).map fun (cut, whole) =>
    (cut, ⟨remains.scanned.drop found.length, whole⟩)

end Remains

/-- Whether a directive without brackets in front may start with a character. -/
def startsDirective (c : Char) : Bool :=
  c = '-' || c = ':' || c = '_' || Text.isAlphanumeric c

/-- What stands behind the target and the brackets: nothing, or an equals sign and a level. -/
def readThreshold (remains : Remains) : Option Threshold :=
  match remains.scanned with
  | [] => some (some .trace)
  | '=' :: _ => do levelBehind (← remains.next).whole
  | _ => none

/-- A field in braces, in front of the closing bracket. -/
def readField (remains : Remains) : Option (FieldTest × Remains) := do
  let (text, remains) ← (← remains.next).part (· = '}')
  match remains.scanned with
  | '}' :: ']' :: _ =>
    if text = [] then none else return (← FieldTest.ofText text, ← (← remains.next).next)
  | _ => none

/-- A directive from the opening bracket on. -/
def readBrackets (target : List Char) (remains : Remains) : Option Directive := do
  let (span, remains) ← (← remains.next).part fun c => c = ']' || c = '{'
  match remains.scanned with
  | ']' :: _ =>
    let threshold ← readThreshold (← remains.next)
    return { target, span := some span, threshold }
  | '{' :: _ =>
    let (field, remains) ← readField remains
    let threshold ← readThreshold remains
    return { target, span := if span = [] then none else some span, field := some field, threshold }
  | _ => none

/-- A directive that is a level or starts with a target. -/
def readTarget (remains : Remains) : Option Directive := do
  let (target, behind) ← remains.part fun c => c = '=' || c = '['
  match behind.scanned with
  | [] =>
    match threshold? remains.whole with
    | some threshold => return { threshold }
    | none => return { target := remains.whole }
  | '[' :: _ => readBrackets target behind
  | _ => return { target, threshold := ← readThreshold behind }

/-- A directive. -/
def Directive.ofText (text : List Char) : Option Directive :=
  let remains : Remains := ⟨Text.trim text, text⟩
  match remains.scanned with
  | [] => none
  | '[' :: _ => readBrackets [] remains
  | c :: _ => if startsDirective c then readTarget remains else none

/-! ## What directives speak of -/

namespace Directive

/-- Whether a directive speaks of a report. -/
def speaksOf (directive : Directive) (report : Report) : Bool :=
  directive.span.isNone && directive.target.isPrefixOf report.target.toList &&
    match directive.field with
    | none => true
    | some ⟨name, none⟩ => report.fields.any fun field => field.toList = name
    | some ⟨_, some _⟩ => false

/-- The name of the field of a directive, in a list. -/
def fieldNames (directive : Directive) : List String :=
  directive.field.toList.map fun field => String.ofList field.name

/-- Whether a directive is more specific than another one that speaks of the same report. -/
def isMoreSpecific (directive other : Directive) : Bool :=
  other.target.length < directive.target.length ||
    directive.target.length = other.target.length && other.fieldNames < directive.fieldNames

end Directive

end CodeAtlas.Logging
