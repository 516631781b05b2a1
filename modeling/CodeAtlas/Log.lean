import CodeAtlas.Text.Numeral

/-!
# Log records

What the library reports about its work while it answers. A record has a level, a message and named
values. Functions that report return their records in the order in which they are made.
-/

namespace CodeAtlas.Log

/-- How much a record matters, the least first. -/
inductive Level
  /-- Every step of the work. -/
  | trace
  /-- Decisions that help to find faults. -/
  | debug
  /-- What a user may want to know. -/
  | info
  /-- What may be wrong. -/
  | warn
  /-- What is wrong. -/
  | error
  deriving DecidableEq, Repr

/-- The name of a level. -/
def Level.name : Level → String
  | trace => "TRACE"
  | debug => "DEBUG"
  | info => "INFO"
  | warn => "WARN"
  | error => "ERROR"

/-- The place of a level, from zero for the one that matters least. -/
def Level.rank : Level → Nat
  | trace => 0
  | debug => 1
  | info => 2
  | warn => 3
  | error => 4

/-- All levels, the one that matters least first. -/
def Level.all : List Level :=
  [trace, debug, info, warn, error]

/-- A named value of a record. -/
inductive Value
  /-- A text. -/
  | text (text : String)
  /-- A number. -/
  | number (n : Nat)
  deriving DecidableEq, Repr

/-- One report. -/
structure Record where
  /-- How much it matters. -/
  level : Level
  /-- What happened. -/
  message : String
  /-- The names and values that say to what it happened. -/
  values : List (String × Value) := []
  deriving DecidableEq, Repr

end CodeAtlas.Log
