import CodeAtlas.Text.Numeral

/-!
# Which texts are numerals

The readers of numbers take a text character by character and give up at the first one that does not
fit. What comes of it is said here without the walk: `IsNatural` and `IsInteger` tell which texts are
numerals of which number, and the readers accept exactly those whose number fits
(`readNatural_eq_ok_iff`, `readInteger_eq_some_iff`, and one for each size of word).

Numbers are written without a sign and without leading zeros, and every text of this form is what
its number is written as (`isCanonical_iff`).
-/

namespace CodeAtlas.Text

/-! ## Numerals -/

/-- A text is a run of decimal digits with the value `n`. -/
structure IsDecimal (text : List Char) (n : Nat) : Prop where
  /-- There are digits. -/
  nonempty : text ≠ []
  /-- There is nothing else. -/
  digits : ∀ c ∈ text, c.isDigit = true
  /-- They have the value. -/
  value : Nat.ofDigitChars 10 text 0 = n

/-- A text is a numeral of `n`: decimal digits behind at most one plus sign. -/
def IsNatural (text : List Char) (n : Nat) : Prop :=
  IsDecimal text n ∨ ∃ rest, text = '+' :: rest ∧ IsDecimal rest n

/-- A text is a numeral of the integer `n`: decimal digits behind at most one sign. -/
def IsInteger (text : List Char) (n : Int) : Prop :=
  (∃ m : Nat, n = m ∧ IsNatural text m) ∨
    ∃ (rest : List Char) (m : Nat), text = '-' :: rest ∧ n = -(m : Int) ∧ IsDecimal rest m

/-- A text that starts with no digit is no run of digits. -/
theorem not_isDecimal_cons {c : Char} {rest : List Char} {n : Nat} (h : c.isDigit = false) :
    ¬ IsDecimal (c :: rest) n := by
  intro hdecimal
  have hc := hdecimal.digits c List.mem_cons_self
  rw [h] at hc
  cases hc

/-- Digits behind a value do not lower it. -/
theorem le_ofDigitChars (text : List Char) (acc : Nat) : acc ≤ Nat.ofDigitChars 10 text acc := by
  rw [Nat.ofDigitChars_eq_ofDigitChars_zero]
  have hpow : 0 < 10 ^ text.length := Nat.pow_pos (by decide)
  calc
    acc ≤ 10 ^ text.length * acc := Nat.le_mul_of_pos_left acc hpow
    _ ≤ 10 ^ text.length * acc + Nat.ofDigitChars 10 text 0 := Nat.le_add_right _ _

/-- Digits are read if and only if they are all digits and their value stays below the limit. It is
enough that it does in the end, since it never goes down. -/
theorem readDigits_eq_ok_iff {limit acc n : Nat} {text : List Char} (h : acc < limit) :
    readDigits limit acc text = .ok n ↔
      (∀ c ∈ text, c.isDigit = true) ∧ Nat.ofDigitChars 10 text acc = n ∧ n < limit := by
  induction text generalizing acc with
  | nil =>
    simp only [readDigits, Except.ok.injEq, List.not_mem_nil, false_implies, implies_true,
      Nat.ofDigitChars_nil, true_and]
    constructor
    · rintro rfl
      exact ⟨rfl, h⟩
    · exact And.left
  | cons c rest ih =>
    rw [List.forall_mem_cons, Nat.ofDigitChars_cons, readDigits, digitValue]
    by_cases hc : c.isDigit = true
    · rw [if_pos hc, Nat.mul_comm 10 acc]
      by_cases hlimit : acc * 10 + (c.toNat - '0'.toNat) < limit
      · simp only [if_pos hlimit, ih hlimit, hc, true_and]
      · have hle := le_ofDigitChars rest (acc * 10 + (c.toNat - '0'.toNat))
        simp only [if_neg hlimit]
        constructor
        · intro herror
          cases herror
        · rintro ⟨-, hvalue, hn⟩
          omega
    · rw [if_neg hc]
      constructor
      · intro herror
        cases herror
      · rintro ⟨⟨hdigit, -⟩, -⟩
        exact absurd hdigit hc

/-- Digits are read from the left on top of nothing. -/
theorem readDigits_zero_eq_ok_iff {limit n : Nat} {c : Char} {rest : List Char} (h : 0 < limit) :
    readDigits limit 0 (c :: rest) = .ok n ↔ IsDecimal (c :: rest) n ∧ n < limit := by
  rw [readDigits_eq_ok_iff h]
  constructor
  · rintro ⟨hdigits, hvalue, hlimit⟩
    exact ⟨⟨List.cons_ne_nil _ _, hdigits, hvalue⟩, hlimit⟩
  · rintro ⟨hdecimal, hlimit⟩
    exact ⟨hdecimal.digits, hdecimal.value, hlimit⟩

/-- The texts read as a natural number are the numerals below the limit. -/
theorem readNatural_eq_ok_iff {limit n : Nat} {text : List Char} (h : 0 < limit) :
    readNatural limit text = .ok n ↔ IsNatural text n ∧ n < limit := by
  unfold readNatural
  -- The empty text, a plus sign alone, a plus sign in front of something, and all other texts.
  split
  · constructor
    · intro herror
      cases herror
    · rintro ⟨hdecimal | ⟨rest, hrest, -⟩, -⟩
      · exact absurd rfl hdecimal.nonempty
      · cases hrest
  · constructor
    · intro herror
      cases herror
    · rintro ⟨hdecimal | ⟨rest, hrest, hdecimal⟩, -⟩
      · exact absurd hdecimal (not_isDecimal_cons rfl)
      · cases hrest
        exact absurd rfl hdecimal.nonempty
  · rename_i rest hrest
    obtain ⟨c, more, rfl⟩ := List.exists_cons_of_ne_nil fun hnil : rest = [] => hrest (hnil ▸ rfl)
    rw [readDigits_zero_eq_ok_iff h]
    refine and_congr_left fun _ => ⟨fun hdecimal => .inr ⟨_, rfl, hdecimal⟩, ?_⟩
    rintro (hdecimal | ⟨behind, hbehind, hdecimal⟩)
    · exact absurd hdecimal (not_isDecimal_cons rfl)
    · cases hbehind
      exact hdecimal
  · rename_i hempty hplus hsigned
    obtain ⟨c, more, rfl⟩ := List.exists_cons_of_ne_nil hempty
    rw [readDigits_zero_eq_ok_iff h]
    refine and_congr_left fun _ => ⟨.inl, ?_⟩
    rintro (hdecimal | ⟨behind, hbehind, -⟩)
    · exact hdecimal
    · exact absurd hbehind (hsigned behind)

/-- What is left of a result when the fault is dropped. -/
theorem toOption_eq_some_iff {ε α : Type} {result : Except ε α} {value : α} :
    result.toOption = some value ↔ result = .ok value := by
  cases result <;> simp [Except.toOption]

/-- Digits behind a minus sign are read as the negated value. -/
theorem readInteger_minus (limit : Nat) (c : Char) (rest : List Char) :
    readInteger limit ('-' :: c :: rest) =
      (readDigits (limit + 1) 0 (c :: rest)).toOption.map fun m : Nat => -(m : Int) := by
  rw [readInteger]
  cases readDigits (limit + 1) 0 (c :: rest) with
  | error fault => rfl
  | ok m => rfl

/-- The texts read as an integer are the numerals from the negated limit up to the limit. -/
theorem readInteger_eq_some_iff {limit : Nat} {n : Int} {text : List Char} (h : 0 < limit) :
    readInteger limit text = some n ↔ IsInteger text n ∧ -(limit : Int) ≤ n ∧ n < limit := by
  by_cases hsigned : ∃ c rest, text = '-' :: c :: rest
  · -- The negated limit itself is in reach, so the digits are read up to one more.
    obtain ⟨c, rest, rfl⟩ := hsigned
    rw [readInteger_minus, Option.map_eq_some_iff]
    constructor
    · rintro ⟨m, hm, rfl⟩
      obtain ⟨hdecimal, hlimit⟩ :=
        (readDigits_zero_eq_ok_iff (Nat.succ_pos limit)).mp (toOption_eq_some_iff.mp hm)
      exact ⟨.inr ⟨_, m, rfl, rfl, hdecimal⟩, by omega, by omega⟩
    · rintro ⟨⟨m, -, hdecimal | ⟨behind, hbehind, -⟩⟩ | ⟨behind, m, hbehind, rfl, hdecimal⟩, hlow, -⟩
      · exact absurd hdecimal (not_isDecimal_cons rfl)
      · cases hbehind
      · cases hbehind
        refine ⟨m, toOption_eq_some_iff.mpr ?_, rfl⟩
        exact (readDigits_zero_eq_ok_iff (Nat.succ_pos limit)).mpr ⟨hdecimal, by omega⟩
  · -- Without digits behind a minus sign the text is read as a natural number.
    have hread : readInteger limit text = (readNatural limit text).toOption.map Int.ofNat := by
      unfold readInteger
      split
      · exact absurd ⟨_, _, rfl⟩ hsigned
      · rfl
    rw [hread, Option.map_eq_some_iff]
    constructor
    · rintro ⟨m, hm, rfl⟩
      obtain ⟨hnatural, hlimit⟩ := (readNatural_eq_ok_iff h).mp (toOption_eq_some_iff.mp hm)
      rw [Int.ofNat_eq_natCast]
      exact ⟨.inl ⟨m, rfl, hnatural⟩, by omega, by omega⟩
    · rintro ⟨⟨m, rfl, hnatural⟩ | ⟨behind, m, hbehind, -, hdecimal⟩, -, hhigh⟩
      · exact ⟨m, toOption_eq_some_iff.mpr ((readNatural_eq_ok_iff h).mpr ⟨hnatural, by omega⟩), rfl⟩
      · -- Behind the minus sign there would be a digit.
        obtain ⟨c, more, rfl⟩ := List.exists_cons_of_ne_nil hdecimal.nonempty
        exact absurd ⟨c, more, hbehind⟩ hsigned

/-- The texts read as a 64-bit word are the numerals of its value. -/
theorem readWord64_eq_some_iff {text : List Char} {word : UInt64} :
    readWord64 text = some word ↔ IsNatural text word.toNat := by
  unfold readWord64
  rw [Option.map_eq_some_iff]
  constructor
  · rintro ⟨n, hn, rfl⟩
    obtain ⟨hnatural, hlimit⟩ :=
      (readNatural_eq_ok_iff (by decide)).mp (toOption_eq_some_iff.mp hn)
    rwa [UInt64.toNat_ofNat_of_lt' hlimit]
  · intro hnatural
    refine ⟨word.toNat, toOption_eq_some_iff.mpr ?_, UInt64.ofNat_toNat⟩
    exact (readNatural_eq_ok_iff (by decide)).mpr ⟨hnatural, word.toNat_lt_size⟩

/-- The texts read as a 32-bit word are the numerals of its value. -/
theorem readWord32_eq_some_iff {text : List Char} {word : UInt32} :
    readWord32 text = some word ↔ IsNatural text word.toNat := by
  unfold readWord32
  rw [Option.map_eq_some_iff]
  constructor
  · rintro ⟨n, hn, rfl⟩
    obtain ⟨hnatural, hlimit⟩ :=
      (readNatural_eq_ok_iff (by decide)).mp (toOption_eq_some_iff.mp hn)
    rwa [UInt32.toNat_ofNat_of_lt' hlimit]
  · intro hnatural
    refine ⟨word.toNat, toOption_eq_some_iff.mpr ?_, UInt32.ofNat_toNat⟩
    exact (readNatural_eq_ok_iff (by decide)).mpr ⟨hnatural, word.toNat_lt_size⟩

/-! ## Written numbers -/

/-- The digits of a number are a run of digits with its value. -/
theorem isDecimal_digits (n : Nat) : IsDecimal (digits n) n where
  nonempty := Nat.toDigits_ne_nil
  digits := fun _ hc => Nat.isDigit_of_mem_toDigits (by decide) (by decide) hc
  value := Nat.ofDigitChars_ten_toDigits

/-- A written integer is a numeral of it. -/
theorem isInteger_signedDigits (n : Int) : IsInteger (signedDigits n) n := by
  cases n with
  | ofNat n => exact .inl ⟨n, rfl, .inl (isDecimal_digits n)⟩
  | negSucc n => exact .inr ⟨digits (n + 1), n + 1, rfl, Int.negSucc_eq n, isDecimal_digits (n + 1)⟩

/-- The characters of a written integer are digits and the minus sign. -/
theorem mem_signedDigits {n : Int} {c : Char} (h : c ∈ signedDigits n) :
    c.isDigit = true ∨ c = '-' := by
  cases n with
  | ofNat n => exact .inl ((isDecimal_digits n).digits c h)
  | negSucc n =>
    rcases List.mem_cons.mp h with hminus | hdigit
    · exact .inr hminus
    · exact .inl ((isDecimal_digits (n + 1)).digits c hdigit)

/-- A written integer is not empty. -/
theorem signedDigits_ne_nil (n : Int) : signedDigits n ≠ [] := by
  cases n with
  | ofNat n => exact (isDecimal_digits n).nonempty
  | negSucc n => exact List.cons_ne_nil _ _

/-- A canonical decimal below a limit: digits without a sign and without leading zeros. -/
structure IsCanonical (limit : Nat) (text : List Char) : Prop where
  /-- There are digits. -/
  nonempty : text ≠ []
  /-- There is nothing else. -/
  digits : ∀ c ∈ text, c.isDigit = true
  /-- A zero in front stands alone. -/
  noLeadingZero : text.head? = some '0' → text = ['0']
  /-- The value stays below the limit. -/
  below : Nat.ofDigitChars 10 text 0 < limit

/-- A digit is the character of its value. -/
theorem digitChar_of_isDigit {c : Char} (h : c.isDigit = true) :
    c.toNat - '0'.toNat < 10 ∧ Nat.digitChar (c.toNat - '0'.toNat) = c := by
  obtain ⟨hlow, hhigh⟩ : 48 ≤ c.toNat ∧ c.toNat ≤ 57 := Char.isDigit_iff_toNat.mp h
  have hlt : c.toNat - '0'.toNat < 10 := by
    show c.toNat - 48 < 10
    omega
  refine ⟨hlt, Char.toNat_inj.mp ?_⟩
  rw [Nat.toNat_digitChar_of_lt_ten hlt]
  show 48 + (c.toNat - 48) = c.toNat
  omega

/-- Digits without leading zeros are the digits of their value. -/
theorem digits_ofDigitChars {text : List Char} (hne : text ≠ [])
    (hdigits : ∀ c ∈ text, c.isDigit = true) (hzero : text.head? = some '0' → text = ['0']) :
    digits (Nat.ofDigitChars 10 text 0) = text := by
  -- The last digit is split off, as the printer does.
  obtain ⟨reversed, rfl⟩ : ∃ reversed : List Char, text = reversed.reverse :=
    ⟨text.reverse, (List.reverse_reverse text).symm⟩
  induction reversed with
  | nil => exact absurd rfl hne
  | cons c front ih =>
    rw [List.reverse_cons] at hdigits hzero ⊢
    obtain ⟨hlt, hchar⟩ := digitChar_of_isDigit (hdigits c (by simp))
    rw [Nat.ofDigitChars_append, Nat.ofDigitChars_cons, Nat.ofDigitChars_nil]
    by_cases hfront : front.reverse = []
    · rw [hfront, Nat.ofDigitChars_nil, Nat.mul_zero, Nat.zero_add, List.nil_append, digits,
        Nat.toDigits_of_lt_base hlt, hchar]
    · -- A zero in front would stand alone, and there is another digit behind it.
      have hnozero : front.reverse.head? ≠ some '0' := by
        intro hfirst
        have halone := hzero (by rw [List.head?_append, hfirst]; rfl)
        have hlength := congrArg List.length halone
        rw [List.length_append, List.length_singleton, List.length_singleton] at hlength
        exact hfront (List.length_eq_zero_iff.mp (by omega))
      have hrest : digits (Nat.ofDigitChars 10 front.reverse 0) = front.reverse :=
        ih hfront (fun d hd => hdigits d (List.mem_append_left _ hd)) fun h => absurd h hnozero
      have hpositive : 0 < Nat.ofDigitChars 10 front.reverse 0 := by
        refine Nat.pos_of_ne_zero fun hvalue => hnozero ?_
        rw [← hrest, hvalue]
        rfl
      rw [digits, ← Nat.toDigits_append_toDigits (by decide) hpositive hlt,
        Nat.toDigits_of_lt_base hlt, hchar]
      exact congrArg (· ++ [c]) hrest

/-- Only zero is written with a zero in front. -/
theorem head?_digits {n : Nat} (h : (digits n).head? = some '0') : n = 0 := by
  induction n using Nat.strongRecOn with
  | ind n ih =>
    unfold digits at h
    rw [Nat.toDigits_eq_if (by decide)] at h
    split at h
    · exact Nat.digitChar_eq_zero.mp (Option.some.inj h)
    · rename_i hlarge
      obtain ⟨c, hc⟩ : ∃ c, (digits (n / 10)).head? = some c :=
        Option.isSome_iff_exists.mp (List.isSome_head?.mpr (isDecimal_digits _).nonempty)
      rw [List.head?_append, show (Nat.toDigits 10 (n / 10)).head? = some c from hc] at h
      have hquotient := ih (n / 10) (by omega) (hc.trans h)
      omega

/-- The canonical decimals are what the numbers below the limit are written as. -/
theorem isCanonical_iff {limit : Nat} {text : List Char} :
    IsCanonical limit text ↔ ∃ n < limit, text = digits n := by
  constructor
  · intro h
    exact ⟨_, h.below, (digits_ofDigitChars h.nonempty h.digits h.noLeadingZero).symm⟩
  · rintro ⟨n, hn, rfl⟩
    have hdecimal := isDecimal_digits n
    refine ⟨hdecimal.nonempty, hdecimal.digits, fun hhead => ?_, by rwa [hdecimal.value]⟩
    rw [head?_digits hhead]
    rfl

end CodeAtlas.Text
