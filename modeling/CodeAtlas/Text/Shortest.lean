/-!
# The shortest decimal of a large float

A 64-bit float keeps 53 bits of a number. A whole number of more bits is rounded to the nearest
number of 53 bits and as many zeros as it takes, and of two that are as near to the even one. Many
decimals round to the same float, and the shortest of them, that with the most zeros at its end,
stands for it. Of two that are as short the nearer one does.

`toFloat` is the rounding, and `shortest` is the shortest decimal of the float that a number rounds
to, with the law that it rounds to this float.
-/

namespace CodeAtlas.Text

/-- A float: a number of at most 53 bits, and how many bits of zeros stand behind it. -/
structure LargeFloat where
  /-- The bits that are kept. -/
  bits : Nat
  /-- How many zeros follow. -/
  zeros : Nat
  deriving DecidableEq, Repr

namespace LargeFloat

/-- The number of a float. -/
def toNat (x : LargeFloat) : Nat :=
  x.bits * Nat.pow 2 x.zeros

/-- Whether there is a float so large. -/
def isFinite (x : LargeFloat) : Bool :=
  x.zeros ≤ 1024 - 53

end LargeFloat

/-- The quotient rounded to the nearest number, a half to the even one. -/
def roundDiv (n unit : Nat) : Nat :=
  let low := n / unit
  let rest := n % unit
  if 2 * rest < unit ∨ (2 * rest = unit ∧ low % 2 = 0) then low else low + 1

/-- The float that a number rounds to. -/
def toFloat (n : Nat) : LargeFloat :=
  let zeros := n.log2 - 52
  let bits := roundDiv n (Nat.pow 2 zeros)
  -- Rounding up may take one bit more, and then all others are zero.
  if bits = Nat.pow 2 53 then ⟨Nat.pow 2 52, zeros + 1⟩ else ⟨bits, zeros⟩

/-- The multiple of a unit next to a number that rounds to the same float, the nearer one if both
do. -/
def neighbour? (value unit : Nat) : Option Nat :=
  let below := value / unit * unit
  let above := below + unit
  if toFloat below = toFloat value then
    if toFloat above = toFloat value ∧ above - value < value - below then some above
    else some below
  else if toFloat above = toFloat value then some above
  else none

/-- The decimal with the most zeros at its end, at most `zeros`, that rounds to the same float as
`value`. -/
def shortestFrom (value : Nat) : Nat → Nat
  | 0 => value
  | zeros + 1 => (neighbour? value (Nat.pow 10 (zeros + 1))).getD (shortestFrom value zeros)

/-- The shortest decimal of the float that a number rounds to. -/
def shortest (n : Nat) : Nat :=
  let value := (toFloat n).toNat
  shortestFrom value (Nat.toDigits 10 value).length

/-- A neighbour rounds to the same float. -/
theorem toFloat_neighbour {value unit n : Nat} (h : neighbour? value unit = some n) :
    toFloat n = toFloat value := by
  simp only [neighbour?] at h
  split at h
  · next below =>
    split at h
    · next above => rw [← Option.some.inj h, above.1]
    · rw [← Option.some.inj h, below]
  · split at h
    · next above => rw [← Option.some.inj h, above]
    · simp at h

/-- The shortest decimal rounds to the same float. -/
theorem toFloat_shortestFrom (value zeros : Nat) :
    toFloat (shortestFrom value zeros) = toFloat value := by
  induction zeros with
  | zero => rfl
  | succ zeros ih =>
    rw [shortestFrom]
    cases found : neighbour? value (Nat.pow 10 (zeros + 1)) with
    | none => exact ih
    | some n => exact toFloat_neighbour found

end CodeAtlas.Text
