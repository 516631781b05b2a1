import CodeAtlas.Toml

/-!
# Numbers, dates and truth values in TOML

The values that are written without quotes or brackets. Each is one run of characters, which
`Scalar.ofText` takes as a whole. Digits may have single underscores between them. An integer fits
into 128 bits, with or without a sign, and a number with a fraction or an exponent is small enough
for a 64-bit float. A date has to be one of the calendar.

A number may be beyond these limits, and an integer may lack its digits behind the mark of its base
or end in what is no digit. Such a number has a place in the document but no value.
-/

namespace CodeAtlas.Toml.Scalar

/-! ## Integers -/

/-- The digits of a number with single underscores between digits, without the underscores. -/
def grouped (isDigit : Char → Bool) : List Char → Option (List Char)
  | [] => none
  | [c] => if isDigit c then some [c] else none
  | c :: '_' :: rest => if isDigit c then (grouped isDigit rest).map (c :: ·) else none
  | c :: rest => if isDigit c then (grouped isDigit rest).map (c :: ·) else none

/-- The value of a digit in any of the bases. -/
def digitValue (c : Char) : Nat :=
  if c.isDigit then c.toNat - 48 else if c.isLower then c.toNat - 87 else c.toNat - 55

/-- The value of digits in a base. -/
def ofDigits (base : Nat) (digits : List Char) : Nat :=
  digits.foldl (fun n c => n * base + digitValue c) 0

/-- Whether a character is a digit in base sixteen. -/
def isHexDigit (c : Char) : Bool :=
  c.isDigit || ('a' ≤ c && c ≤ 'f') || ('A' ≤ c && c ≤ 'F')

/-- The digits of a decimal number, which has no zero in front. -/
def wholeDigits (text : List Char) : Option (List Char) :=
  match grouped Char.isDigit text with
  | some ['0'] => some ['0']
  | some ('0' :: _) => none
  | digits => digits

/-- A text without its sign, and whether the sign is a minus. -/
def splitSign : List Char → Bool × List Char
  | '-' :: rest => (true, rest)
  | '+' :: rest => (false, rest)
  | text => (false, text)

/-- The value of an integer, which has to fit into 128 bits. -/
def fitting (n : Int) : Value :=
  if -(Nat.pow 2 127 : Int) ≤ n ∧ n < Nat.pow 2 128 then .integer n else .unreadable

/-- An integer behind the mark of its base. -/
def ofBase (base : Nat) (isDigit : Char → Bool) (text : List Char) : Option Value :=
  if text = [] then some .unreadable
  else (grouped isDigit text).map fun digits => fitting (ofDigits base digits)

/-- Whether each underscore stands between digits of base sixteen. `behindDigit` says that such a
digit stands in front of the text. -/
def isGrouped (behindDigit : Bool) : List Char → Bool
  | [] => true
  | ['_'] => false
  | '_' :: c :: rest => behindDigit && isHexDigit c && isGrouped true rest
  | c :: rest => isGrouped (isHexDigit c) rest

/-- Whether a text without a sign begins like an integer: with digits, and an underscore and more
behind them. A point or the mark of an exponent would make it another kind of number. -/
def beginsInteger (text : List Char) : Bool :=
  let behind := text.dropWhile Char.isDigit
  text.head?.any (fun c => '1' ≤ c && c ≤ '9') && behind.head? = some '_' &&
    isGrouped true behind && behind.all fun c => c ≠ '.' && c ≠ 'e' && c ≠ 'E'

/-- An integer. -/
def integer? : List Char → Option Value
  | '0' :: 'x' :: rest => ofBase 16 isHexDigit rest
  | '0' :: 'o' :: rest => ofBase 8 (fun c => '0' ≤ c && c ≤ '7') rest
  | '0' :: 'b' :: rest => ofBase 2 (fun c => c = '0' || c = '1') rest
  | text =>
    let (negative, rest) := splitSign text
    match wholeDigits rest with
    | some digits =>
      let n : Int := ofDigits 10 digits
      some (fitting (if negative then -n else n))
    | none => if beginsInteger rest then some .unreadable else none

/-! ## Numbers with a fraction or an exponent -/

/-- Whether `digits * 10 ^ exponent` stays below the least number that a 64-bit float rounds to
infinity. -/
def isFinite (digits : List Char) (exponent : Int) : Bool :=
  let n := ofDigits 10 digits
  let significant := (digits.dropWhile (· = '0')).length
  if n = 0 then true
  -- Far from the limit the number of digits decides, so that no huge power is computed.
  else if 400 < exponent + significant then false
  else if exponent + significant < 300 then true
  else
    n * Nat.pow 10 exponent.toNat <
      (Nat.pow 2 1024 - Nat.pow 2 970) * Nat.pow 10 (-exponent).toNat

/-- An exponent, which may have a sign and zeros in front. -/
def exponent? (text : List Char) : Option Int :=
  let (negative, rest) := splitSign text
  (grouped Char.isDigit rest).map fun digits =>
    let n : Int := ofDigits 10 digits
    if negative then -n else n

/-- Whether a number with a fraction or an exponent, written without a sign, is small enough. There
is no answer for another text. -/
def unsignedIsFinite? (text : List Char) : Option Bool :=
  let isMark := fun c => c = 'e' || c = 'E'
  let mantissa := text.takeWhile (!isMark ·)
  let whole := wholeDigits (mantissa.takeWhile (· ≠ '.'))
  let fraction :=
    match mantissa.dropWhile (· ≠ '.') with
    | [] => some []
    | _ :: digits => grouped Char.isDigit digits
  let exponent :=
    match text.dropWhile (!isMark ·) with
    | [] => if mantissa.contains '.' then some 0 else none
    | _ :: rest => exponent? rest
  match whole, fraction, exponent with
  | some whole, some fraction, some exponent =>
    some (isFinite (whole ++ fraction) (exponent - fraction.length))
  | _, _, _ => none

/-- A number with a fraction or an exponent, or one of the two names of values that are no
numbers. -/
def float? (text : List Char) : Option Value :=
  let (_, rest) := splitSign text
  if rest = ['i', 'n', 'f'] ∨ rest = ['n', 'a', 'n'] then some (.float text)
  else (unsignedIsFinite? rest).map fun finite => if finite then .float text else .unreadable

/-! ## Dates and times -/

/-- The value of two decimal digits, if it is at most `high`. -/
def twoDigits (high : Nat) (a b : Char) : Option Nat :=
  if a.isDigit && b.isDigit then
    let n := ofDigits 10 [a, b]
    if n ≤ high then some n else none
  else none

/-- The number of days of a month. -/
def daysIn (year month : Nat) : Nat :=
  if month = 2 then
    if year % 4 = 0 ∧ (year % 100 ≠ 0 ∨ year % 400 = 0) then 29 else 28
  else if month = 4 ∨ month = 6 ∨ month = 9 ∨ month = 11 then 30
  else 31

/-- The text behind a date. -/
def afterDate? : List Char → Option (List Char)
  | a :: b :: c :: d :: '-' :: m :: n :: '-' :: x :: y :: rest => do
    let high ← twoDigits 99 a b
    let low ← twoDigits 99 c d
    let month ← twoDigits 12 m n
    let day ← twoDigits 31 x y
    if month = 0 ∨ day = 0 ∨ daysIn (100 * high + low) month < day then none else some rest
  | _ => none

/-- The text behind a fraction of a second, if there is one. -/
def afterFraction? : List Char → Option (List Char)
  | '.' :: rest =>
    match rest with
    | c :: _ => if c.isDigit then some (rest.dropWhile Char.isDigit) else none
    | [] => none
  | rest => some rest

/-- The text behind a time of the day. Seconds may be left out, and their fraction with them. -/
def afterTime? : List Char → Option (List Char)
  | a :: b :: ':' :: c :: d :: rest => do
    let _ ← twoDigits 23 a b
    let _ ← twoDigits 59 c d
    match rest with
    | ':' :: e :: f :: rest =>
      let _ ← twoDigits 60 e f
      afterFraction? rest
    | rest => return rest
  | _ => none

/-- Whether a text is the offset of a time zone or empty. -/
def isOffset : List Char → Bool
  | [] => true
  | ['Z'] => true
  | ['z'] => true
  | [sign, a, b, ':', c, d] =>
    (sign = '+' || sign = '-') && (twoDigits 23 a b).isSome && (twoDigits 59 c d).isSome
  | _ => false

/-- Whether a text is a date, a time, or a date and a time with a letter or a space between
them. -/
def isDateTime (text : List Char) : Bool :=
  match afterDate? text with
  | some [] => true
  | some (mark :: rest) =>
    (mark = 'T' || mark = 't' || mark = ' ') && (afterTime? rest).any isOffset
  | none => afterTime? text = some []

/-! ## Scalars -/

/-- The value of a run of characters. -/
def ofText (text : List Char) : Option Value :=
  if text = ['t', 'r', 'u', 'e'] then some (.boolean true)
  else if text = ['f', 'a', 'l', 's', 'e'] then some (.boolean false)
  else
    match integer? text with
    | some value => some value
    | none =>
      match float? text with
      | some value => some value
      | none => if isDateTime text then some (.dateTime text) else none

end CodeAtlas.Toml.Scalar
