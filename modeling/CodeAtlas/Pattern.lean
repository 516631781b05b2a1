/-!
# Patterns

A pattern is a regular expression, as one asks the value of a field to match. What it matches is of
no concern here, and whether it can be used at all is: its parts may be nested 250 deep at most, and
it has to match texts in UTF-8 only, a byte at a time and without looking back. A pattern knows all
of Unicode unless it says otherwise. Where it knows ASCII only, whatever could match a part of a
character is refused, and where it knows Unicode, so is the edge of a word, since to tell one takes
more than a byte.

`Pattern.depth` is the depth of nesting, and `Pattern.isUsable` takes both conditions together.
-/

namespace CodeAtlas

/-! ## Characters and sets of characters -/

namespace Pattern

/-- A character of a pattern. -/
structure Literal where
  /-- The character that it stands for. -/
  char : Char
  /-- Whether it is written as a byte, by two hexadecimal digits. -/
  asByte : Bool := false
  deriving DecidableEq, Repr

/-- A set of characters that an escape stands for. -/
inductive Shorthand
  /-- Digits, white space or the characters of words, or all characters but these. -/
  | common (negated : Bool)
  /-- A general category of Unicode, or all others. -/
  | category
  deriving DecidableEq, Repr

/-- A set of characters in brackets. -/
inductive CharSet where
  /-- No character. -/
  | empty
  /-- A single character. -/
  | literal (c : Literal)
  /-- The characters from one to another. -/
  | range (low high : Literal)
  /-- A set that an escape stands for. -/
  | shorthand (set : Shorthand)
  /-- A set of ASCII characters with a name, or all characters but these. -/
  | named (negated : Bool)
  /-- A set in brackets of its own, or all characters but these. -/
  | nested (negated : Bool) (set : CharSet)
  /-- The characters of several sets. -/
  | union (sets : List CharSet)
  /-- What the two sides of an operator leave. -/
  | combined (left right : CharSet)

end Pattern

/-! ## Patterns -/

open Pattern in
/-- A pattern. -/
inductive Pattern where
  /-- Nothing. -/
  | empty
  /-- A change of what holds for all that follows. It can switch Unicode on or off. -/
  | setting (unicode : Option Bool)
  /-- A single character. -/
  | literal (c : Literal)
  /-- A set that an escape stands for. -/
  | shorthand (set : Shorthand)
  /-- Any character. -/
  | dot
  /-- An edge of the text or a line, or of a word. -/
  | edge (ofWord : Bool)
  /-- A set in brackets, or all characters but these. -/
  | brackets (negated : Bool) (set : CharSet)
  /-- A pattern several times. -/
  | repeated (pattern : Pattern)
  /-- A pattern in parentheses, which can switch Unicode on or off between them. -/
  | group (unicode : Option Bool) (pattern : Pattern)
  /-- Patterns one after the other. -/
  | sequence (patterns : List Pattern)
  /-- One of several patterns. -/
  | choice (patterns : List Pattern)

namespace Pattern

/-! ## Nesting -/

mutual

/-- How deep a set is nested. -/
def CharSet.depth : CharSet → Nat
  | .nested _ set => set.depth + 1
  | .union sets => depthOfSets sets + 1
  | .combined left right => max left.depth right.depth + 1
  | _ => 0

/-- How deep the deepest of some sets is nested. -/
def depthOfSets : List CharSet → Nat
  | [] => 0
  | set :: sets => max set.depth (depthOfSets sets)

end

mutual

/-- How deep a pattern is nested. -/
def depth : Pattern → Nat
  | brackets _ set => set.depth + 1
  | repeated pattern => pattern.depth + 1
  | group _ pattern => pattern.depth + 1
  | sequence patterns => depthOfAll patterns + 1
  | choice patterns => depthOfAll patterns + 1
  | _ => 0

/-- How deep the deepest of some patterns is nested. -/
def depthOfAll : List Pattern → Nat
  | [] => 0
  | pattern :: patterns => max pattern.depth (depthOfAll patterns)

end

/-- How deep a pattern may be nested. -/
def maxDepth : Nat := 250

/-! ## What Unicode allows -/

/-- Whether a character is beyond ASCII. -/
def Literal.isWide (c : Literal) : Bool :=
  0x80 ≤ c.char.toNat

/-- Whether a set that an escape stands for may occur where only ASCII is known. -/
def Shorthand.isNarrow : Shorthand → Bool
  | common negated => !negated
  | category => false

mutual

/-- Whether a set may occur where only ASCII is known. The complement of such a set would have bytes
that are no characters. -/
def CharSet.isNarrow : CharSet → Bool
  | .empty => true
  | .literal c => !c.isWide
  | .range low high => !low.isWide && !high.isWide
  | .shorthand set => set.isNarrow
  | .named negated => !negated
  | .nested negated set => !negated && set.isNarrow
  | .union sets => areNarrow sets
  | .combined left right => left.isNarrow && right.isNarrow

/-- Whether all of some sets may occur where only ASCII is known. -/
def areNarrow : List CharSet → Bool
  | [] => true
  | set :: sets => set.isNarrow && areNarrow sets

end

mutual

/-- Whether Unicode is on behind a pattern, given whether it is on in front. There is no answer when
the pattern has something that is not allowed then. -/
def unicodeBehind (unicode : Bool) : Pattern → Option Bool
  | empty => some unicode
  | setting change => some (change.getD unicode)
  | literal c => if unicode || !(c.asByte && c.isWide) then some unicode else none
  | shorthand set => if unicode || set.isNarrow then some unicode else none
  | dot => if unicode then some unicode else none
  | edge ofWord => if unicode && ofWord then none else some unicode
  | brackets negated set =>
    if unicode || (!negated && set.isNarrow) then some unicode else none
  | repeated pattern => unicodeBehind unicode pattern
  -- What a group switches is as before behind it.
  | group change pattern => (unicodeBehind (change.getD unicode) pattern).map fun _ => unicode
  | sequence patterns => unicodeBehindAll unicode patterns
  | choice patterns => unicodeBehindAll unicode patterns

/-- Whether Unicode is on behind several patterns, which stand one behind the other. -/
def unicodeBehindAll (unicode : Bool) : List Pattern → Option Bool
  | [] => some unicode
  | pattern :: patterns => do unicodeBehindAll (← unicodeBehind unicode pattern) patterns

end

/-- Whether a pattern can be used. -/
def isUsable (pattern : Pattern) : Bool :=
  pattern.depth ≤ maxDepth && (unicodeBehind true pattern).isSome

end Pattern

end CodeAtlas
