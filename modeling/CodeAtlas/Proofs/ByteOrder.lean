import CodeAtlas.Text.Hex
import Mathlib.Tactic.SplitIfs

/-!
# The order of texts by their bytes

Texts compare by the code points of their characters. In UTF-8 this is the order of their bytes:
the bytes of the smaller of two characters are smaller at the first place where they differ, and
there is such a place, whatever follows the two characters (`utf8EncodeChar_lt`).
-/

namespace CodeAtlas.Text

/-- Of two numbers with the same digits in front of a place, the smaller one has the smaller digit
there, or the same digit and hence the same digits down to this place. -/
theorem digit_lt_or_eq {m n : Nat} (h : m < n) (size base : Nat)
    (hfront : m / size / base = n / size / base) :
    m / size % base < n / size % base ∨
      (m / size % base = n / size % base ∧ m / size = n / size) := by
  have hle : m / size ≤ n / size := Nat.div_le_div_right (Nat.le_of_lt h)
  have hm := Nat.div_add_mod (m / size) base
  have hn := Nat.div_add_mod (n / size) base
  rw [hfront] at hm
  omega

/-- The bytes of a smaller character come first, whatever is behind them. -/
theorem utf8EncodeChar_lt {c d : Char} (h : c < d) (front behind : List UInt8) :
    String.utf8EncodeChar c ++ front < String.utf8EncodeChar d ++ behind := by
  have hcode : c.val.toNat < d.val.toNat := h
  have hrange : d.val.toNat < 1114112 := by
    have hvalid : d.val.toNat.isValidChar := d.valid
    unfold Nat.isValidChar at hvalid
    omega
  unfold String.utf8EncodeChar
  generalize c.val.toNat = m at hcode ⊢
  generalize d.val.toNat = n at hcode hrange ⊢
  have hbyte : ∀ value : Nat, value < 256 → (UInt8.ofNat value).toNat = value :=
    fun value hvalue => UInt8.toNat_ofNat_of_lt' hvalue
  -- The digits of four bytes from the left, each compared if those in front of it are the same.
  have hfirst := digit_lt_or_eq hcode 262144 8 (by omega)
  have hsecond : m / 262144 = n / 262144 → _ := fun heq =>
    digit_lt_or_eq hcode 4096 64 (by omega)
  have hthird : m / 4096 = n / 4096 → _ := fun heq =>
    digit_lt_or_eq hcode 64 64 (by omega)
  -- A longer encoding starts with a larger byte, and of two of one length the digits decide.
  dsimp only
  split_ifs <;>
    simp (disch := omega) only [List.cons_append, List.nil_append, List.cons_lt_cons_iff,
      UInt8.lt_iff_toNat_lt, ← UInt8.toNat_inj, hbyte] <;>
    omega

/-- The bytes of a smaller text come first. -/
theorem utf8_lt {first second : List Char} (h : first < second) : utf8 first < utf8 second := by
  unfold utf8
  induction h with
  | nil =>
    rw [List.flatMap_nil, List.flatMap_cons]
    obtain ⟨first, rest, hbytes⟩ := List.exists_cons_of_ne_nil
      (List.append_ne_nil_of_left_ne_nil String.utf8EncodeChar_ne_nil _)
    rw [hbytes]
    exact List.nil_lt_cons _ _
  | cons _ ih =>
    rw [List.flatMap_cons, List.flatMap_cons]
    exact List.append_left_lt ih
  | rel hchar =>
    rw [List.flatMap_cons, List.flatMap_cons]
    exact utf8EncodeChar_lt hchar _ _

/-- Strings that are in order have their bytes in order. -/
theorem utf8_lt_of_compare {first second : String} (h : compare first second = .lt) :
    utf8 first.toList < utf8 second.toList := by
  have hlt : first < second := compareOfLessAndEq_eq_lt.mp h
  exact utf8_lt (String.lt_iff.mp hlt)

end CodeAtlas.Text
