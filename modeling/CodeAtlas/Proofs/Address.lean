import CodeAtlas.Address.Written
import CodeAtlas.Proofs.Blank
import CodeAtlas.Proofs.Bytecode.Layout
import CodeAtlas.Proofs.Numeral

/-!
# Which texts name a code address

`CodeAddress.Names` lists the texts that name a code address: forty digits in any letter case behind
an optional marker, or the label of a creation with a numeral in it. The reader takes exactly these,
with white space around them (`CodeAddress.ofText_eq_ok_iff`).

An account is written with digits whose letter case comes from a hash. Whatever the hash is, they
are the digits of the account in one of their letter cases (`Address.spells_checksumDigits`), as the
hash is long enough to have a part in all of them. So what is written for a code address names it
(`CodeAddress.names_display`) and is read back. `CodeAddress.ofText_names` puts these facts
together.
-/

namespace CodeAtlas

open Text

/-! ## Digits in either letter case -/

/-- The digits of bytes are lower-case digits. -/
theorem exists_hexDigit_of_mem_toHex {bytes : List UInt8} {c : Char} (h : c ∈ toHex bytes) :
    ∃ value < 16, c = hexDigit value := by
  obtain ⟨byte, -, hpair⟩ := List.mem_flatMap.mp h
  have hsmall : byte.toNat < 256 := byte.toNat_lt
  unfold hexPair at hpair
  simp only [List.mem_cons, List.not_mem_nil, or_false] at hpair
  rcases hpair with rfl | rfl
  · exact ⟨byte.toNat / 16, by omega, rfl⟩
  · exact ⟨byte.toNat % 16, by omega, rfl⟩

/-- Every character of a spelling has a value. -/
theorem exists_hexValue_of_spells {digits : List Char} {bytes : List UInt8}
    (h : Spells digits bytes) {c : Char} (hc : c ∈ digits) :
    ∃ value, hexValue c.toNat = some value := by
  have hlower : c.toLower ∈ toHex bytes := by
    unfold Spells at h
    rw [← h]
    exact List.mem_map_of_mem hc
  obtain ⟨value, hvalue, hdigit⟩ := exists_hexDigit_of_mem_toHex hlower
  exact ⟨value, (toLower_eq_hexDigit_iff hvalue).mp hdigit⟩

/-- A text whose first byte is a digit starts with this digit in one of its letter cases. -/
theorem exists_digit_cons {text : List Char} {byte : UInt8} {rest : List UInt8} {value : Nat}
    (htext : utf8 text = byte :: rest) (hvalue : hexValue byte.toNat = some value) :
    ∃ c more, text = c :: more ∧ utf8 more = rest ∧ c.toLower = hexDigit value := by
  cases text with
  | nil => cases htext
  | cons c more =>
    obtain ⟨hcode, hbytes⟩ := utf8_cons_of_lt htext (lt_of_hexValue hvalue).1
    have hmore : byte :: utf8 more = byte :: rest := (hbytes more).symm.trans htext
    have hdigit : c.toLower = hexDigit value :=
      (toLower_eq_hexDigit_iff (hexValue_lt hvalue)).mpr (hcode ▸ hvalue)
    exact ⟨c, more, rfl, (List.cons.inj hmore).2, hdigit⟩

/-- A byte is written with its two halves. -/
theorem hexPair_ofNat {high low : Nat} (hhigh : high < 16) (hlow : low < 16) :
    hexPair (UInt8.ofNat (16 * high + low)) = [hexDigit high, hexDigit low] := by
  have hbyte : (UInt8.ofNat (16 * high + low)).toNat = 16 * high + low :=
    UInt8.toNat_ofNat_of_lt' (show 16 * high + low < 256 by omega)
  have hquotient : (16 * high + low) / 16 = high := by omega
  have hremainder : (16 * high + low) % 16 = low := by omega
  rw [hexPair, hbyte, hquotient, hremainder]

/-- Two characters that are read give a byte, and the others give the rest. -/
theorem exists_of_ofHex_pair {high low : UInt8} {others bytes : List UInt8}
    (h : ofHex (high :: low :: others) = some bytes) :
    ∃ highValue lowValue behind, hexValue high.toNat = some highValue ∧
      hexValue low.toNat = some lowValue ∧ ofHex others = some behind ∧
      bytes = UInt8.ofNat (16 * highValue + lowValue) :: behind := by
  unfold ofHex at h
  obtain ⟨highValue, hhigh, h⟩ := Option.bind_eq_some_iff.mp h
  obtain ⟨lowValue, hlow, h⟩ := Option.bind_eq_some_iff.mp h
  obtain ⟨behind, hbehind, hbytes⟩ := Option.bind_eq_some_iff.mp h
  cases hbytes
  exact ⟨highValue, lowValue, behind, hhigh, hlow, hbehind, rfl⟩

/-- A text that reads as bytes spells them. -/
theorem spells_of_ofHex {digits : List Char} {bytes : List UInt8}
    (h : ofHex (utf8 digits) = some bytes) : Spells digits bytes := by
  generalize htext : utf8 digits = text at h
  -- Two characters are taken off the text for each byte.
  fun_induction ofHex text generalizing digits bytes with
  | case1 =>
    cases h
    cases digits with
    | nil => rfl
    | cons c rest =>
      rw [utf8_cons, List.append_eq_nil_iff] at htext
      exact absurd htext.1 String.utf8EncodeChar_ne_nil
  | case2 => cases h
  | case3 high low others ih =>
    obtain ⟨highValue, lowValue, behind, hhigh, hlow, hbehind, rfl⟩ := exists_of_ofHex_pair h
    obtain ⟨c, rest, rfl, hrest, hfirst⟩ := exists_digit_cons htext hhigh
    obtain ⟨d, others, rfl, hothers, hsecond⟩ := exists_digit_cons hrest hlow
    have hspells : others.map Char.toLower = toHex behind := ih hothers hbehind
    show c.toLower :: d.toLower :: others.map Char.toLower =
      hexPair (UInt8.ofNat (16 * highValue + lowValue)) ++ toHex behind
    rw [hexPair_ofNat (hexValue_lt hhigh) (hexValue_lt hlow), hfirst, hsecond, hspells]
    rfl

/-- Digits that are read are two for each byte, and nothing else is among them. -/
theorem digits_of_ofHex {digits bytes : List UInt8} (h : ofHex digits = some bytes) :
    digits.length = 2 * bytes.length ∧ ∀ digit ∈ digits, (hexValue digit.toNat).isSome := by
  fun_induction ofHex digits generalizing bytes with
  | case1 =>
    cases h
    exact ⟨rfl, fun digit hdigit => absurd hdigit List.not_mem_nil⟩
  | case2 => cases h
  | case3 high low others ih =>
    obtain ⟨highValue, lowValue, behind, hhigh, hlow, hbehind, rfl⟩ := exists_of_ofHex_pair h
    obtain ⟨hlength, hothers⟩ := ih hbehind
    have hhighDigit : (hexValue high.toNat).isSome := by rw [hhigh]; rfl
    have hlowDigit : (hexValue low.toNat).isSome := by rw [hlow]; rfl
    refine ⟨?_, List.forall_mem_cons.mpr
      ⟨hhighDigit, List.forall_mem_cons.mpr ⟨hlowDigit, hothers⟩⟩⟩
    rw [List.length_cons, List.length_cons, List.length_cons, hlength]
    omega

/-! ## Accounts -/

/-- A text that may stand in front of hexadecimal digits. -/
def IsMarker (marker : List Char) : Prop :=
  marker = [] ∨ marker = ['0', 'x'] ∨ marker = ['0', 'X']

/-- Every text has a marker in front of what is left without it. -/
theorem exists_isMarker_append (text : List Char) :
    ∃ marker, IsMarker marker ∧ text = marker ++ withoutMarker text := by
  unfold withoutMarker
  split
  · exact ⟨['0', 'x'], .inr (.inl rfl), rfl⟩
  · exact ⟨['0', 'X'], .inr (.inr rfl), rfl⟩
  · exact ⟨[], .inl rfl, rfl⟩

/-- Without a marker in front of digits, the digits are left. -/
theorem IsMarker.withoutMarker_append {marker digits : List Char} {bytes : List UInt8}
    (h : IsMarker marker) (hdigits : Spells digits bytes) :
    withoutMarker (marker ++ digits) = digits := by
  rcases h with rfl | rfl | rfl
  · exact withoutMarker_eq_self (ofHex_of_spells hdigits)
  · rfl
  · rfl

namespace Address

/-- A text is read as an account if what is left without its marker is read as the bytes. -/
theorem ofHexText_eq_ok_iff {text : List Char} {address : Address} :
    ofHexText text = .ok address ↔ ofHex (utf8 (withoutMarker text)) = some address.bytes := by
  constructor
  · intro h
    unfold ofHexText at h
    dsimp only at h
    -- Of all ways through the reader only the last one does not end with a fault.
    split at h
    · cases h
    · split at h
      · cases h
      · split at h
        · cases h
        · split at h
          · rename_i bytes hbytes
            split at h
            · cases h
              exact hbytes
            · cases h
          · cases h
  · intro h
    obtain ⟨hlength, hdigits⟩ := digits_of_ofHex h
    rw [address.length_bytes] at hlength
    obtain ⟨marker, hmarker, htext⟩ := exists_isMarker_append text
    have heven : ¬ (utf8 text).length % 2 = 1 := by
      have hwhole : (utf8 text).length =
          (utf8 marker).length + (utf8 (withoutMarker text)).length := by
        conv_lhs => rw [htext]
        rw [utf8_append, List.length_append]
      rcases hmarker with rfl | rfl | rfl
      · have hsize : (utf8 []).length = 0 := rfl
        omega
      · have hsize : (utf8 ['0', 'x']).length = 2 := by decide
        omega
      · have hsize : (utf8 ['0', 'X']).length = 2 := by decide
        omega
    have hnone : firstNonDigit (utf8 (withoutMarker text)) = none := by
      unfold firstNonDigit
      rw [List.find?_eq_none]
      rintro ⟨byte, position⟩ hmem
      have hbyte := hdigits byte (List.fst_mem_of_mem_zipIdx hmem)
      cases hvalue : hexValue byte.toNat with
      | none =>
        rw [hvalue] at hbyte
        cases hbyte
      | some value => simp [hvalue]
    unfold ofHexText
    simp only [if_neg heven, hlength, hnone, h, address.length_bytes, ne_eq, not_true_eq_false,
      if_false, dif_pos]

/-- The texts that are read as an account are the spellings of its bytes behind a marker. -/
theorem ofHexText_eq_ok_iff_spells {text : List Char} {address : Address} :
    ofHexText text = .ok address ↔
      ∃ marker digits, IsMarker marker ∧ Spells digits address.bytes ∧ text = marker ++ digits := by
  rw [ofHexText_eq_ok_iff]
  constructor
  · intro h
    obtain ⟨marker, hmarker, htext⟩ := exists_isMarker_append text
    exact ⟨marker, _, hmarker, spells_of_ofHex h, htext⟩
  · rintro ⟨marker, digits, hmarker, hdigits, rfl⟩
    rw [hmarker.withoutMarker_append hdigits]
    exact ofHex_of_spells hdigits

end Address

/-! ## Checksums -/

/-- Pieces of one length, one for each item, have this length for each item together. -/
theorem length_flatMap_of_forall {α β : Type} {piece : α → List β} {size : Nat} {items : List α}
    (h : ∀ item ∈ items, (piece item).length = size) :
    (items.flatMap piece).length = items.length * size := by
  rw [List.length_flatMap, List.map_congr_left h, List.map_const', List.sum_replicate_nat]

/-- A hash has 32 bytes. -/
theorem Keccak.length_hash (message : List UInt8) : (Keccak.hash message).length = 32 := by
  unfold Keccak.hash
  dsimp only
  generalize absorbBlocks _ _ _ = s
  have hbytes : ∀ w ∈ s.toList.take 4, (wordBytes w).length = 8 := by
    intro w _
    unfold wordBytes
    rw [List.length_map, List.length_range]
  rw [length_flatMap_of_forall hbytes, List.length_take, Vector.length_toList]
  rfl

/-- A byte has two digits. -/
theorem length_toHex (bytes : List UInt8) : (toHex bytes).length = bytes.length * 2 :=
  length_flatMap_of_forall fun _ _ => rfl

/-- A byte has two halves. -/
theorem length_halves (bytes : List UInt8) : (halves bytes).length = bytes.length * 2 :=
  length_flatMap_of_forall fun _ _ => rfl

/-- In lower case, a digit and its capital are the digit. -/
theorem toLower_hexDigit :
    ∀ value < 16, (hexDigit value).toUpper.toLower = hexDigit value ∧
      (hexDigit value).toLower = hexDigit value := by
  decide

/-- With enough of the hash at hand, the letter case is all that changes. -/
theorem map_toLower_zipWith_checksumDigit {plain : List Char} {hash : List Nat}
    (hplain : ∀ c ∈ plain, ∃ value < 16, c = hexDigit value) (hlong : plain.length ≤ hash.length) :
    (List.zipWith checksumDigit plain hash).map Char.toLower = plain := by
  induction plain generalizing hash with
  | nil => rfl
  | cons c rest ih =>
    cases hash with
    | nil => exact absurd hlong (Nat.not_succ_le_zero _)
    | cons hashDigit others =>
      obtain ⟨⟨value, hvalue, rfl⟩, hrest⟩ := List.forall_mem_cons.mp hplain
      have hdigit : (checksumDigit (hexDigit value) hashDigit).toLower = hexDigit value := by
        unfold checksumDigit
        split
        · exact (toLower_hexDigit value hvalue).1
        · exact (toLower_hexDigit value hvalue).2
      rw [List.zipWith_cons_cons, List.map_cons, hdigit, ih hrest (Nat.le_of_succ_le_succ hlong)]

/-- The digits of an account with its checksum are a spelling of its bytes. -/
theorem Address.spells_checksumDigits (address : Address) :
    Spells address.checksumDigits address.bytes := by
  have hlong : address.hexDigits.length ≤
      (halves (Keccak.hash (utf8 address.hexDigits))).length := by
    rw [length_halves, Keccak.length_hash, Address.hexDigits, length_toHex, address.length_bytes]
    decide
  exact map_toLower_zipWith_checksumDigit (fun c hc => exists_hexDigit_of_mem_toHex hc) hlong

/-! ## Names of code addresses -/

/-- A digit is no white space. -/
theorem isBlank_eq_false_of_hexValue {c : Char} {value : Nat}
    (h : hexValue c.toNat = some value) : isBlank c = false := by
  rw [hexValue_eq_some_iff] at h
  rw [Bool.eq_false_iff]
  unfold isBlank
  simp only [ne_eq, Bool.or_eq_true, Bool.and_eq_true, decide_eq_true_eq, beq_iff_eq]
  omega

namespace CodeAddress

/-- A text names a code address. -/
inductive Names : List Char → CodeAddress → Prop
  /-- Behind an optional marker, the digits of an account in any letter case name the account. -/
  | account {marker digits : List Char} {address : Address} (hmarker : IsMarker marker)
      (hdigits : Spells digits address.bytes) : Names (marker ++ digits) (deployed address)
  /-- A label names the step whose numeral it carries, with white space around the numeral. -/
  | label {inner numeral : List Char} {step : UInt64} (hinner : Trims inner numeral)
      (hnumeral : IsNatural numeral step.toNat) :
      Names (labelStart ++ (inner ++ labelEnd)) (creation step)

/-- A text stands in a label if the two parts of the label are all that is around it. -/
theorem labelled?_eq_some_iff {text inner : List Char} :
    labelled? text = some inner ↔ text = labelStart ++ (inner ++ labelEnd) := by
  unfold labelled?
  constructor
  · intro h
    split at h
    · rename_i hstart
      obtain ⟨rest, rfl⟩ := List.isPrefixOf_iff_prefix.mp hstart
      rw [List.drop_left] at h
      dsimp only at h
      split at h
      · rename_i hend
        obtain ⟨front, rfl⟩ := List.isSuffixOf_iff_suffix.mp hend
        rw [List.length_append, Nat.add_sub_cancel, List.take_left] at h
        cases h
        rfl
      · cases h
    · cases h
  · rintro rfl
    have hstart : labelStart.isPrefixOf (labelStart ++ (inner ++ labelEnd)) = true :=
      List.isPrefixOf_iff_prefix.mpr (List.prefix_append _ _)
    have hend : labelEnd.isSuffixOf (inner ++ labelEnd) = true :=
      List.isSuffixOf_iff_suffix.mpr (List.suffix_append _ _)
    rw [if_pos hstart, List.drop_left]
    dsimp only
    rw [if_pos hend, List.length_append, Nat.add_sub_cancel, List.take_left]

/-- The label of a creation has no white space at its ends. -/
theorem bareEnds_label (inner : List Char) : BareEnds (labelStart ++ (inner ++ labelEnd)) where
  head := by
    rintro c ⟨⟩
    decide
  last := by
    intro c hc
    rw [← List.append_assoc] at hc
    obtain rfl : c = ')' := (Option.some.inj (List.getLast?_concat.symm.trans hc)).symm
    decide

/-- Every character of a name of an account is a digit or belongs to its marker. -/
theorem mem_account {marker digits : List Char} {address : Address} (hmarker : IsMarker marker)
    (hdigits : Spells digits address.bytes) {c : Char} (hc : c ∈ marker ++ digits) :
    c = 'x' ∨ c = 'X' ∨ ∃ value, hexValue c.toNat = some value := by
  rcases List.mem_append.mp hc with hc | hc
  · have hzero : ∃ value, hexValue '0'.toNat = some value := ⟨0, rfl⟩
    rcases hmarker with rfl | rfl | rfl
    · cases hc
    · rcases List.mem_pair.mp hc with rfl | rfl
      · exact .inr (.inr hzero)
      · exact .inl rfl
    · rcases List.mem_pair.mp hc with rfl | rfl
      · exact .inr (.inr hzero)
      · exact .inr (.inl rfl)
  · exact .inr (.inr (exists_hexValue_of_spells hdigits hc))

/-- A name has no white space at its ends. -/
theorem Names.bareEnds {core : List Char} {x : CodeAddress} (h : Names core x) :
    BareEnds core := by
  cases h with
  | account hmarker hdigits =>
    refine bareEnds_of_forall fun c hc => ?_
    rcases mem_account hmarker hdigits hc with rfl | rfl | ⟨value, hvalue⟩
    · decide
    · decide
    · exact isBlank_eq_false_of_hexValue hvalue
  | label => exact bareEnds_label _

/-- A name of an account is no label, as there is no bracket in it. -/
theorem labelled?_account {marker digits : List Char} {address : Address}
    (hmarker : IsMarker marker) (hdigits : Spells digits address.bytes) :
    labelled? (marker ++ digits) = none := by
  rw [Option.eq_none_iff_forall_ne_some]
  intro inner hinner
  have hbracket : '(' ∈ marker ++ digits := by
    rw [labelled?_eq_some_iff.mp hinner]
    exact List.mem_append_left _ (by decide)
  rcases mem_account hmarker hdigits hbracket with h | h | ⟨value, hvalue⟩
  · exact absurd h (by decide)
  · exact absurd h (by decide)
  · cases hvalue

/-- A text is read as a code address if without white space around it it names the code address. -/
theorem ofText_eq_ok_iff {text : String} {x : CodeAddress} :
    ofText text = .ok x ↔ ∃ core, Trims text.toList core ∧ Names core x := by
  unfold ofText
  dsimp only
  constructor
  · intro h
    refine ⟨_, trims_trim _, ?_⟩
    split at h
    · rename_i inner hinner
      rw [labelled?_eq_some_iff.mp hinner]
      split at h
      · rename_i step hstep
        cases h
        obtain ⟨hnumeral, hsmall⟩ := (readNatural_eq_ok_iff (by decide)).mp hstep
        refine .label (trims_trim inner) ?_
        rwa [UInt64.toNat_ofNat_of_lt' hsmall]
      · cases h
    · split at h
      · rename_i address haddress
        cases h
        obtain ⟨marker, digits, hmarker, hdigits, hcore⟩ :=
          Address.ofHexText_eq_ok_iff_spells.mp haddress
        rw [hcore]
        exact .account hmarker hdigits
      · cases h
  · rintro ⟨core, htrims, hnames⟩
    rw [trim_eq_iff.mpr htrims]
    cases hnames with
    | account hmarker hdigits =>
      rw [labelled?_account hmarker hdigits]
      dsimp only
      rw [Address.ofHexText_eq_ok_iff_spells.mpr ⟨_, _, hmarker, hdigits, rfl⟩]
    | @label inner numeral step hinner hnumeral =>
      have hread : readNatural UInt64.size numeral = .ok step.toNat :=
        (readNatural_eq_ok_iff (by decide)).mpr ⟨hnumeral, step.toNat_lt_size⟩
      rw [labelled?_eq_some_iff.mpr rfl]
      dsimp only
      rw [trim_eq_iff.mpr hinner, hread]
      dsimp only
      rw [UInt64.ofNat_toNat]

/-- What is written for a code address names it. -/
theorem names_display (x : CodeAddress) : Names x.display.toList x := by
  cases x with
  | deployed address =>
    unfold display Address.display
    rw [String.toList_ofList]
    have hmarker : IsMarker ['0', 'x'] := .inr (.inl rfl)
    exact .account hmarker address.spells_checksumDigits
  | creation step =>
    have hdecimal := isDecimal_digits step.toNat
    have hblank : ∀ c ∈ digits step.toNat, isBlank c = false := by
      intro c hc
      obtain ⟨hlow, hhigh⟩ := Char.isDigit_iff_toNat.mp (hdecimal.digits c hc)
      have hvalue : c.toNat = c.toNat - 48 + 48 := (Nat.sub_add_cancel hlow).symm
      exact isBlank_eq_false_of_hexValue (hexValue_eq_some_iff.mpr (.inl ⟨hlow, hhigh, hvalue⟩))
    unfold display
    rw [String.toList_ofList, List.append_assoc]
    exact .label (bareEnds_of_forall hblank).trims (.inl hdecimal)

/-- A label whose numeral is missing or too large is a fault of the step. -/
theorem ofText_eq_error_of_label {text : String} {inner : List Char}
    (htext : Trims text.toList (labelStart ++ (inner ++ labelEnd)))
    (hinner : ∀ numeral n, Trims inner numeral → IsNatural numeral n → UInt64.size ≤ n) :
    ∃ fault, ofText text = .error (.step fault) := by
  unfold ofText
  dsimp only
  rw [trim_eq_iff.mpr htext, labelled?_eq_some_iff.mpr rfl]
  dsimp only
  cases hread : readNatural UInt64.size (trim inner) with
  | error fault => exact ⟨fault, rfl⟩
  | ok n =>
    obtain ⟨hnumeral, hsmall⟩ := (readNatural_eq_ok_iff (by decide)).mp hread
    exact absurd hsmall (Nat.not_lt.mpr (hinner _ n (trims_trim inner) hnumeral))

/-- What is written for a code address is read back as it, so that no two code addresses are written
in the same way. The digits of an account in any letter case, behind an optional marker and with any
white space around them, are read as the account. A text is read as a creation if and only if
without white space around it it is a label in which, with white space around it, a numeral of the
step stands. A label without a numeral that fits is a fault of the step, and so it is no account. -/
theorem ofText_names :
    (∀ x : CodeAddress, ofText x.display = .ok x) ∧
    Function.Injective display ∧
    (∀ (address : Address) (before marker digits behind : List Char),
      AllBlank before → IsMarker marker → Spells digits address.bytes → AllBlank behind →
      ofText (String.ofList (before ++ (marker ++ digits ++ behind))) = .ok (deployed address)) ∧
    (∀ (text : String) (step : UInt64),
      ofText text = .ok (creation step) ↔
        ∃ inner numeral, Trims text.toList (labelStart ++ (inner ++ labelEnd)) ∧
          Trims inner numeral ∧ IsNatural numeral step.toNat) ∧
    ∀ (text : String) (inner : List Char),
      Trims text.toList (labelStart ++ (inner ++ labelEnd)) →
      (∀ numeral n, Trims inner numeral → IsNatural numeral n → UInt64.size ≤ n) →
      (∃ fault, ofText text = .error (.step fault)) ∧
        ∀ address, ofText text ≠ .ok (deployed address) := by
  have hdisplay : ∀ x : CodeAddress, ofText x.display = .ok x := fun x =>
    ofText_eq_ok_iff.mpr ⟨_, (names_display x).bareEnds.trims, names_display x⟩
  refine ⟨hdisplay, ?injective, ?account, ?label, ?fault⟩
  case injective =>
    intro x y hxy
    have hread : Except.ok x = (Except.ok y : Except Fault CodeAddress) := by
      rw [← hdisplay x, hxy, hdisplay y]
    exact Except.ok.inj hread
  case account =>
    intro address before marker digits behind hbefore hmarker hdigits hbehind
    have hnames : Names (marker ++ digits) (deployed address) := .account hmarker hdigits
    rw [ofText_eq_ok_iff, String.toList_ofList]
    exact ⟨_, ⟨⟨before, behind, rfl, hbefore, hbehind⟩, hnames.bareEnds⟩, hnames⟩
  case label =>
    intro text step
    rw [ofText_eq_ok_iff]
    constructor
    · rintro ⟨core, htext, hnames⟩
      cases hnames with
      | label hinner hnumeral => exact ⟨_, _, htext, hinner, hnumeral⟩
    · rintro ⟨inner, numeral, htext, hinner, hnumeral⟩
      exact ⟨_, htext, .label hinner hnumeral⟩
  case fault =>
    intro text inner htext hinner
    obtain ⟨fault, hfault⟩ := ofText_eq_error_of_label htext hinner
    refine ⟨⟨fault, hfault⟩, fun address haddress => ?_⟩
    rw [hfault] at haddress
    cases haddress

/-- Twenty bytes in two letter cases behind a capital marker, with an em space in front and a line
break behind, a step with a plus sign, zeros and white space, and a step that is one too large. -/
theorem ofText_names_of_texts :
    ofText (String.ofList
          ('\u2003' :: '0' :: 'X' :: (List.replicate 20 ['a', 'B']).flatten ++ ['\n'])) =
        .ok (deployed (Address.repeated 0xab)) ∧
      ofText "\t(Contract Creation - Step  +007 ) " = .ok (creation 7) ∧
      ∃ fault, ofText "(Contract Creation - Step 18446744073709551616)" =
        .error (.step fault) := by
  obtain ⟨-, -, haccount, hlabel, hfault⟩ := ofText_names
  refine ⟨?_, ?_, ?_⟩
  · have hbefore : AllBlank ['\u2003'] := List.all_eq_true.mp (by decide)
    have hbehind : AllBlank ['\n'] := List.all_eq_true.mp (by decide)
    have hdigits : Spells (List.replicate 20 ['a', 'B']).flatten (Address.repeated 0xab).bytes := by
      unfold Spells
      decide
    exact haccount _ _ ['0', 'X'] _ _ hbefore (.inr (.inr rfl)) hdigits hbehind
  · refine (hlabel _ 7).mpr ⟨" +007 ".toList, "+007".toList, ?_, ?_, ?_⟩
    · exact trim_eq_iff.mp (by decide)
    · exact trim_eq_iff.mp (by decide)
    · exact .inr ⟨"007".toList, rfl, by decide, List.all_eq_true.mp (by decide), by decide⟩
  · refine (hfault _ "18446744073709551616".toList (trim_eq_iff.mp (by decide)) ?_).1
    intro numeral n hnumeral hn
    obtain rfl := trim_eq_iff.mpr hnumeral
    -- A numeral of a smaller number would be read.
    by_contra hlarge
    have hread := (readNatural_eq_ok_iff (by decide)).mpr ⟨hn, Nat.not_le.mp hlarge⟩
    have hoverflow : readNatural UInt64.size (trim "18446744073709551616".toList) =
        .error .tooLarge := by
      decide
    rw [hoverflow] at hread
    cases hread

end CodeAddress

end CodeAtlas
