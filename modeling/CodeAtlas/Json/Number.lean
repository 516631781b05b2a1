import CodeAtlas.Json
import CodeAtlas.Text.Shortest

/-!
# The size of whole numbers in JSON

A literal of a number may have any number of digits. Most whole numbers fit into one word of 64 bits
and the others of some use into two. A number beyond two words is a float if its digits are the
shortest ones of the float nearest to it, and otherwise it is no more than its literal.

`Json.hasLongNumber` looks for numbers that take two words, and `Json.settled` gives each number
beyond two words the form that it has from then on. `Json.isOnlyLiteral` tells which are no floats.
-/

namespace CodeAtlas.Json

open Text

/-- The whole number that a literal without a fraction and an exponent gives. -/
def wholeNumber? (literal : String) : Option Int :=
  let (isNegative, digits) :=
    match literal.toList with
    | '-' :: digits => (true, digits)
    | digits => (false, digits)
  if digits.all Char.isDigit then
    let n : Int := digits.foldl (fun n c => n * 10 + (c.toNat - '0'.toNat)) 0
    some (if isNegative then -n else n)
  else none

/-- Whether a number fits into so many bits, with or without a sign. -/
def fits (bits : Nat) (n : Int) : Bool :=
  -(Nat.pow 2 (bits - 1) : Int) ≤ n ∧ n < Nat.pow 2 bits

/-- Whether a literal gives a whole number that takes two words. -/
def isLong (literal : String) : Bool :=
  (wholeNumber? literal).any fun n => !fits 64 n && fits 128 n

mutual

/-- Whether a value has a number in it that takes two words. -/
def hasLongNumber : Json → Bool
  | number literal => isLong literal
  | array items => anyHasLongNumber items
  | object members => anyMemberHasLongNumber members
  | _ => false

/-- Whether one of some items has a number in it that takes two words. -/
def anyHasLongNumber : List Json → Bool
  | [] => false
  | item :: items => item.hasLongNumber || anyHasLongNumber items

/-- Whether one of some members has a number in it that takes two words. -/
def anyMemberHasLongNumber : List (JsonText × Json) → Bool
  | [] => false
  | (_, value) :: members => value.hasLongNumber || anyMemberHasLongNumber members

end

/-! ## The form of numbers beyond two words -/

/-- Whether the digits of a number are those of the float nearest to it. -/
def isFloat (n : Nat) : Bool :=
  (toFloat n).isFinite && shortest n = n

/-- Whether a literal gives a whole number beyond two words that is no float. -/
def isOnlyLiteral (literal : String) : Bool :=
  (wholeNumber? literal).any fun n => !fits 128 n && !isFloat n.natAbs

/-- The digits of a number with a point behind the first one, without the zeros at its end, and with
the exponent that this takes. -/
def scientific (n : Nat) : List Char :=
  let all := digits n
  let significant := (all.reverse.dropWhile (· = '0')).reverse
  let mantissa :=
    match significant with
    | first :: second :: rest => first :: '.' :: second :: rest
    | _ => significant
  mantissa ++ 'e' :: '+' :: digits (all.length - 1)

/-- The literal that a literal has from the time it is read. -/
def settledLiteral (literal : String) : String :=
  match wholeNumber? literal with
  | none => literal
  | some n =>
    if fits 128 n then String.ofList (signedDigits n)
    else if isFloat n.natAbs then
      String.ofList ((if n < 0 then ['-'] else []) ++ scientific n.natAbs)
    else literal

mutual

/-- The value with each number in the form that it has from the time it is read. -/
def settled : Json → Json
  | number literal => number (settledLiteral literal)
  | array items => array (settledItems [] items)
  | object members => object (settledMembers [] members)
  | value => value

/-- Settled items, behind those that are given in reverse. -/
def settledItems (before : List Json) : List Json → List Json
  | [] => before.reverse
  | item :: items => settledItems (item.settled :: before) items

/-- Settled members, behind those that are given in reverse. -/
def settledMembers (before : List (JsonText × Json)) :
    List (JsonText × Json) → List (JsonText × Json)
  | [] => before.reverse
  | (name, value) :: members => settledMembers ((name, value.settled) :: before) members

end

end CodeAtlas.Json
