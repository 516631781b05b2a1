/-!
# Decimal numerals

Numbers are written in decimal wherever a text carries one: in the fields of a source map and in
the step of a contract creation. A numeral is a nonempty run of ASCII digits behind an optional
sign. Leading zeros carry no meaning, and a value outside the range asked for is refused. The range
is given by the limit it stays below, so that `readNatural UInt64.size` reads what a 64-bit word holds.

`readNatural` says what is wrong with a text it refuses, and `readInteger` reads a signed numeral.
`isReal` tells the texts that are numbers of any kind.
`digits` and `signedDigits` write one back without a leading zero or a plus sign, and `decimal`
makes a text of it.
-/

namespace CodeAtlas.Text

/-- What is wrong with a text that should be a numeral. -/
inductive NumeralFault
  /-- There is no text at all. -/
  | empty
  /-- A character is no digit, or a sign stands alone. -/
  | invalidDigit
  /-- The value does not stay below the limit. -/
  | tooLarge
  deriving DecidableEq, Repr

/-- The wording of a fault. -/
def NumeralFault.message : NumeralFault → String
  | .empty => "cannot parse integer from empty string"
  | .invalidDigit => "invalid digit found in string"
  | .tooLarge => "number too large to fit in target type"

/-- The value of an ASCII digit. -/
def digitValue (c : Char) : Option Nat :=
  if c.isDigit then some (c.toNat - '0'.toNat) else none

/-- Digits read from the left on top of the value `acc` read so far. The first character that is
no digit, or that lifts the value to the limit, decides the fault. -/
def readDigits (limit : Nat) : Nat → List Char → Except NumeralFault Nat
  | acc, [] => .ok acc
  | acc, c :: rest =>
    match digitValue c with
    | none => .error .invalidDigit
    | some d =>
      if acc * 10 + d < limit then readDigits limit (acc * 10 + d) rest else .error .tooLarge

/-- A numeral below `limit`, with at most one plus sign in front. -/
def readNatural (limit : Nat) : List Char → Except NumeralFault Nat
  | [] => .error .empty
  | ['+'] => .error .invalidDigit
  | '+' :: rest => readDigits limit 0 rest
  | text => readDigits limit 0 text

/-- A numeral from `-limit` to `limit - 1`, with at most one sign in front. -/
def readInteger (limit : Nat) : List Char → Option Int
  | '-' :: c :: rest => (readDigits (limit + 1) 0 (c :: rest)).toOption.map fun n => -(n : Int)
  | text => (readNatural limit text).toOption.map Int.ofNat

/-- A 64-bit word. -/
def readWord64 (text : List Char) : Option UInt64 :=
  (readNatural UInt64.size text).toOption.map UInt64.ofNat

/-- A 32-bit word. -/
def readWord32 (text : List Char) : Option UInt32 :=
  (readNatural UInt32.size text).toOption.map UInt32.ofNat

/-- Whether a text is an exponent: digits behind an optional sign. -/
def isExponent (text : List Char) : Bool :=
  let digits :=
    match text with
    | '+' :: rest => rest
    | '-' :: rest => rest
    | _ => text
  digits ≠ [] && digits.all Char.isDigit

/-- Whether a text is a number that may have a fraction and an exponent, or one of the names of what
stands in place of a number, in any letter case. It has at most one sign in front and at least one
digit in front of the exponent. -/
def isReal (text : List Char) : Bool :=
  let unsigned :=
    match text with
    | '+' :: rest => rest
    | '-' :: rest => rest
    | _ => text
  let behind := unsigned.dropWhile Char.isDigit
  let (fraction, behind) :=
    match behind with
    | '.' :: rest => (rest.takeWhile Char.isDigit, rest.dropWhile Char.isDigit)
    | _ => ([], behind)
  let isNumber := unsigned.takeWhile Char.isDigit ++ fraction ≠ [] &&
    match behind with
    | [] => true
    | c :: rest => (c = 'e' || c = 'E') && isExponent rest
  isNumber || ["inf", "infinity", "nan"].contains (String.ofList (unsigned.map Char.toLower))

/-- The decimal digits of a number. -/
def digits (n : Nat) : List Char :=
  Nat.toDigits 10 n

/-- The decimal digits of an integer, behind a minus sign when it is negative. -/
def signedDigits : Int → List Char
  | .ofNat n => digits n
  | .negSucc n => '-' :: digits (n + 1)

/-- A number as text. -/
def decimal (n : Nat) : String :=
  String.ofList (digits n)

end CodeAtlas.Text
