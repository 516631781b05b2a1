import CodeAtlas.Address
import CodeAtlas.Proofs.Bytecode.Blocks
import CodeAtlas.Proofs.Policy
import CodeAtlas.Text.Cut

/-!
# Linking libraries

A compiled text has a placeholder of forty bytes for the address of each library. Linking puts the
digits of addresses in their place (`linkText`). What is read off the linked text is the code of the
unlinked one with the addresses written over the ranges of its placeholders (`writeAddresses`), and
a candidate that is read from the unlinked text accepts this code, as no position matters that lies
in a placeholder (`MatchPolicy.accepts_linked`).

A placeholder is cut out of a text by its number of bytes, and only a text that can be read has a
character start behind each of its placeholders: what is behind is an underscore, a digit or a plus
sign, and no byte of a longer character is one of these (`exists_cutBytes`).
-/

namespace CodeAtlas

open Text

/-! ## Texts and their bytes -/

/-- A character below 128 is one byte in UTF-8, and all bytes of any other are 128 or more. -/
theorem utf8EncodeChar_cases (c : Char) :
    (c.toNat < 128 ∧ String.utf8EncodeChar c = [UInt8.ofNat c.toNat]) ∨
      ∀ byte ∈ String.utf8EncodeChar c, 128 ≤ byte.toNat := by
  have hhigh : ∀ n, 128 ≤ n → n < 256 → 128 ≤ (UInt8.ofNat n).toNat := by
    intro n hlow hbyte
    rw [UInt8.toNat_ofNat', Nat.mod_eq_of_lt hbyte]
    exact hlow
  have hvalue : c.val.toNat = c.toNat := rfl
  unfold String.utf8EncodeChar
  simp only [hvalue]
  split
  · exact .inl ⟨by omega, rfl⟩
  · right
    split
    · intro byte hbyte
      simp only [List.mem_cons, List.not_mem_nil, or_false] at hbyte
      rcases hbyte with rfl | rfl <;> exact hhigh _ (by omega) (by omega)
    · split
      · intro byte hbyte
        simp only [List.mem_cons, List.not_mem_nil, or_false] at hbyte
        rcases hbyte with rfl | rfl | rfl <;> exact hhigh _ (by omega) (by omega)
      · intro byte hbyte
        simp only [List.mem_cons, List.not_mem_nil, or_false] at hbyte
        rcases hbyte with rfl | rfl | rfl | rfl <;> exact hhigh _ (by omega) (by omega)

/-- The bytes of a text in two parts. -/
theorem utf8_append (first second : List Char) :
    utf8 (first ++ second) = utf8 first ++ utf8 second :=
  List.flatMap_append

/-- The bytes of a text start with those of its first character. -/
theorem utf8_cons (c : Char) (text : List Char) :
    utf8 (c :: text) = String.utf8EncodeChar c ++ utf8 text :=
  List.flatMap_cons

/-- The first byte of a text, if it is below 128, is its first character. -/
theorem utf8_cons_of_lt {c : Char} {text : List Char} {byte : UInt8} {rest : List UInt8}
    (h : utf8 (c :: text) = byte :: rest) (hbyte : byte.toNat < 128) :
    c.toNat = byte.toNat ∧ ∀ more, utf8 (c :: more) = byte :: utf8 more := by
  rw [utf8_cons] at h
  rcases utf8EncodeChar_cases c with ⟨hascii, hencode⟩ | hlong
  · -- The character is the byte.
    rw [hencode] at h
    obtain ⟨hfirst, -⟩ := List.cons.inj h
    refine ⟨?_, fun more => ?_⟩
    · rw [← hfirst, UInt8.toNat_ofNat', Nat.mod_eq_of_lt (by omega)]
    · rw [utf8_cons, hencode, hfirst]
      rfl
  · -- The first byte of a longer character is too large.
    obtain ⟨first, others, hencode⟩ :=
      List.exists_cons_of_ne_nil (String.utf8EncodeChar_ne_nil : String.utf8EncodeChar c ≠ [])
    rw [hencode] at h hlong
    obtain ⟨hfirst, -⟩ := List.cons.inj h
    have hlarge : 128 ≤ first.toNat := hlong first List.mem_cons_self
    rw [hfirst] at hlarge
    omega

/-- A text can be cut behind a number of bytes if the byte that is next is below 128. -/
theorem exists_cutBytes {size : Nat} {text : List Char} (hlength : size ≤ (utf8 text).length)
    (hnext : ∀ byte, (utf8 text)[size]? = some byte → byte.toNat < 128) :
    ∃ cut rest, cutBytes size text = some (cut, rest) ∧ utf8 rest = (utf8 text).drop size := by
  induction text generalizing size with
  | nil =>
    obtain rfl : size = 0 := Nat.le_zero.mp hlength
    exact ⟨[], [], rfl, rfl⟩
  | cons c text ih =>
    cases size with
    | zero => exact ⟨[], c :: text, rfl, rfl⟩
    | succ size =>
      have hsize : (String.utf8EncodeChar c).length = c.utf8Size := String.length_utf8EncodeChar c
      rw [utf8_cons] at hlength hnext ⊢
      rw [List.length_append, hsize] at hlength
      rw [cutBytes]
      by_cases hfits : c.utf8Size ≤ size + 1
      · -- The character is cut off as a whole, and the rest of the cut is behind it.
        obtain ⟨cut, rest, hcut, hrest⟩ : ∃ cut rest,
            cutBytes (size + 1 - c.utf8Size) text = some (cut, rest) ∧
              utf8 rest = (utf8 text).drop (size + 1 - c.utf8Size) := by
          refine ih (by omega) fun byte hbyte => hnext byte ?_
          rw [List.getElem?_append_right (by omega), hsize, hbyte]
        refine ⟨c :: cut, rest, ?_, ?_⟩
        · rw [if_pos hfits, hcut]
          rfl
        · have hwhole : (String.utf8EncodeChar c).drop (size + 1) = [] :=
            List.drop_eq_nil_of_le (by omega)
          rw [hrest, List.drop_append, hwhole, List.nil_append, hsize]
      · -- The next byte is in the middle of a character.
        have hinside : size + 1 < (String.utf8EncodeChar c).length := by omega
        have hbyte := hnext (String.utf8EncodeChar c)[size + 1] (by
          rw [List.getElem?_append_left hinside, List.getElem?_eq_getElem hinside])
        rcases utf8EncodeChar_cases c with ⟨-, hencode⟩ | hlong
        · rw [hencode, List.length_singleton] at hinside
          omega
        · have hlarge := hlong _ (List.getElem_mem hinside)
          omega

/-- What is behind a cut is no longer than the text. -/
theorem length_le_of_cutBytes {size : Nat} {text cut rest : List Char}
    (h : cutBytes size text = some (cut, rest)) : rest.length ≤ text.length := by
  rw [← append_of_cutBytes h, List.length_append]
  exact Nat.le_add_left _ _

/-! ## Linked texts -/

/-- An account address with a spelling of its digits, each in either letter case. -/
structure SpelledAddress where
  /-- The address. -/
  address : Address
  /-- The digits. -/
  digits : List Char
  /-- They read as the address. -/
  reads : ofHex (utf8 digits) = some address.bytes

/-- An address in lower-case digits. -/
def Address.spelled (address : Address) : SpelledAddress :=
  ⟨address, toHex address.bytes, ofHex_toHex address.bytes⟩

/-- A text of pairs and placeholders with the digits of addresses in place of its placeholders, one
after the other. -/
def fillPlaceholders (text : List Char) (addresses : List SpelledAddress) : List Char :=
  match text, addresses with
  | [], _ => []
  | '_' :: _, [] => text
  | '_' :: rest, own :: others =>
    -- The underscore is the first byte of the placeholder.
    match hcut : cutBytes (2 * addressLength - 1) rest with
    | some (_, behind) =>
      have : behind.length < rest.length + 1 :=
        Nat.lt_succ_of_le (length_le_of_cutBytes hcut)
      own.digits ++ fillPlaceholders behind others
    | none => text
  | [_], _ => text
  | first :: second :: rest, addresses => first :: second :: fillPlaceholders rest addresses
termination_by text.length

/-- A placeholder that is there gives way to the digits of the first address. -/
theorem fillPlaceholders_placeholder {rest cut behind : List Char}
    (h : cutBytes (2 * addressLength - 1) rest = some (cut, behind)) (own : SpelledAddress)
    (others : List SpelledAddress) :
    fillPlaceholders ('_' :: rest) (own :: others) =
      own.digits ++ fillPlaceholders behind others := by
  rw [fillPlaceholders]
  split
  · rename_i cut' behind' hcut
    rw [h] at hcut
    cases hcut
    rfl
  · rename_i hcut
    rw [h] at hcut
    cases hcut

/-- A pair of digits stays. -/
theorem fillPlaceholders_pair {first : Char} (h : first ≠ '_') (second : Char) (rest : List Char)
    (addresses : List SpelledAddress) :
    fillPlaceholders (first :: second :: rest) addresses =
      first :: second :: fillPlaceholders rest addresses := by
  rw [fillPlaceholders]
  · rintro _ rfl
    exact h rfl
  · rintro _ _ _ rfl
    exact h rfl

/-- An unlinked text with the digits of addresses in place of its placeholders. A marker stays. -/
def linkText (text : List Char) (addresses : List SpelledAddress) : List Char :=
  match text with
  | '0' :: 'x' :: rest => '0' :: 'x' :: fillPlaceholders rest addresses
  | text => fillPlaceholders text addresses

/-! ## Addresses written into code -/

/-- Code with other bytes from a place on. -/
def overwrite (code : List UInt8) (start : Nat) (bytes : List UInt8) : List UInt8 :=
  code.take start ++ bytes ++ code.drop (start + bytes.length)

/-- Code with addresses written over ranges. -/
def writeAddresses (code : List UInt8) (ranges : List CodeRange) (addresses : List SpelledAddress) :
    List UInt8 :=
  (ranges.zip addresses).foldl
    (fun code (range, own) => overwrite code range.start own.address.bytes) code

/-- Overwriting bytes by as many others leaves what is in front of them and what is behind. -/
theorem overwrite_append {front old bytes : List UInt8} (rest : List UInt8)
    (h : bytes.length = old.length) :
    overwrite (front ++ (old ++ rest)) front.length bytes = front ++ (bytes ++ rest) := by
  unfold overwrite
  rw [List.take_left, h, ← List.append_assoc front old rest, ← List.length_append, List.drop_left,
    List.append_assoc]

/-- Bytes that fit into the code leave its length. -/
theorem length_overwrite {code bytes : List UInt8} {start : Nat}
    (h : start + bytes.length ≤ code.length) : (overwrite code start bytes).length = code.length := by
  unfold overwrite
  rw [List.length_append, List.length_append, List.length_take, List.length_drop]
  omega

/-- The code is kept where nothing is written. -/
theorem getElem?_overwrite {code bytes : List UInt8} {start position : Nat}
    (h : start + bytes.length ≤ code.length)
    (hposition : position < start ∨ start + bytes.length ≤ position) :
    (overwrite code start bytes)[position]? = code[position]? := by
  have htake : (code.take start).length = start := by
    rw [List.length_take]
    omega
  unfold overwrite
  rw [List.append_assoc]
  rcases hposition with hfront | hbehind
  · rw [List.getElem?_append_left (by omega), List.getElem?_take_of_lt hfront]
  · rw [List.getElem?_append_right (by omega), List.getElem?_append_right (by omega), htake,
      List.getElem?_drop]
    congr 1
    omega

/-- Addresses in ranges that fit leave the length of the code. -/
theorem length_writeAddresses {code : List UInt8} {ranges : List CodeRange}
    (addresses : List SpelledAddress) (h : ∀ range ∈ ranges, range.FitsAddress code.length) :
    (writeAddresses code ranges addresses).length = code.length := by
  induction ranges generalizing code addresses with
  | nil => rfl
  | cons range rest ih =>
    cases addresses with
    | nil => rfl
    | cons own others =>
      obtain ⟨⟨hstop, hfits⟩, hrest⟩ := List.forall_mem_cons.mp h
      have hown : (overwrite code range.start own.address.bytes).length = code.length := by
        refine length_overwrite ?_
        rw [own.address.length_bytes]
        exact hstop ▸ hfits
      exact (ih others (hown.symm ▸ hrest)).trans hown

/-- The code is kept at a position that none of the ranges covers. -/
theorem getElem?_writeAddresses {code : List UInt8} {ranges : List CodeRange} {position : Nat}
    (addresses : List SpelledAddress) (h : ∀ range ∈ ranges, range.FitsAddress code.length)
    (hposition : ∀ range ∈ ranges, range.covers position = false) :
    (writeAddresses code ranges addresses)[position]? = code[position]? := by
  induction ranges generalizing code addresses with
  | nil => rfl
  | cons range rest ih =>
    cases addresses with
    | nil => rfl
    | cons own others =>
      obtain ⟨⟨hstop, hfits⟩, hrest⟩ := List.forall_mem_cons.mp h
      obtain ⟨houtside, hothers⟩ := List.forall_mem_cons.mp hposition
      have hbytes : range.start + own.address.bytes.length = range.stop := by
        rw [own.address.length_bytes, hstop]
        rfl
      have hkept : (overwrite code range.start own.address.bytes)[position]? = code[position]? :=
        getElem?_overwrite (hbytes ▸ hfits) (hbytes ▸ CodeRange.covers_eq_false_iff.mp houtside)
      have hown : (overwrite code range.start own.address.bytes).length = code.length :=
        length_overwrite (hbytes ▸ hfits)
      exact (ih others (hown.symm ▸ hrest) hothers).trans hkept

/-! ## Reading characters -/

/-- A text of characters that can be read starts with the characters of a placeholder, or with two
characters that are a pair of digits whatever is behind them. -/
theorem decodeBlocks_utf8_cons {position : Nat} {c : Char} {text : List Char} {code : List UInt8}
    {ranges : List CodeRange} (h : decodeBlocks position (utf8 (c :: text)) = some (code, ranges)) :
    (c = '_' ∧ ∃ cut behind rest others,
      cutBytes (2 * addressLength - 1) text = some (cut, behind) ∧
      decodeBlocks (position + addressLength) (utf8 behind) = some (rest, others) ∧
      code = List.replicate addressLength 0 ++ rest ∧
      ranges = ⟨position, position + addressLength⟩ :: others) ∨
    (c ≠ '_' ∧ ∃ second behind byte rest, text = second :: behind ∧
      (∀ more, decodeBlocks position (utf8 (c :: second :: more)) =
        (decodeBlocks (position + 1) (utf8 more)).map fun (code, ranges) => (byte :: code, ranges)) ∧
      decodeBlocks (position + 1) (utf8 behind) = some (rest, ranges) ∧ code = byte :: rest) := by
  obtain ⟨first, tail, htext⟩ : ∃ first tail, utf8 (c :: text) = first :: tail := by
    refine List.exists_cons_of_ne_nil fun hnil => ?_
    exact String.utf8EncodeChar_ne_nil (List.append_eq_nil_iff.mp hnil).1
  have hascii : first.toNat < 128 := lt_of_decodeBlocks h (by rw [htext]; rfl)
  obtain ⟨hc, hmore⟩ := utf8_cons_of_lt htext hascii
  rw [hmore] at h
  rcases decodeBlocks_cons h with ⟨hfirst, hlength, rest, others, hrest, hcode, hranges⟩ |
    ⟨hfirst, secondByte, tail, byte, rest, htail, hpair, hrest, hcode⟩
  · left
    -- A byte that can be read is behind the placeholder, if any byte is.
    obtain ⟨cut, behind, hcut, hbehind⟩ := exists_cutBytes hlength fun byte hbyte => by
      refine lt_of_decodeBlocks hrest ?_
      rw [List.head?_drop, hbyte]
    refine ⟨Char.toNat_inj.mp (hc.trans (congrArg UInt8.toNat hfirst)), cut, behind, rest, others,
      hcut, ?_, hcode, hranges⟩
    rw [hbehind, hrest]
  · right
    obtain ⟨second, behind, rfl⟩ : ∃ second behind, text = second :: behind := by
      refine List.exists_cons_of_ne_nil fun hnil => ?_
      rw [hnil] at htail
      cases htail
    obtain ⟨-, hsecond⟩ := utf8_cons_of_lt htail (lt_of_pairValue hpair).2
    rw [hsecond] at htail
    obtain ⟨-, rfl⟩ := List.cons.inj htail
    refine ⟨fun heq => hfirst ?_, second, behind, byte, rest, rfl, fun more => ?_, hrest, hcode⟩
    · rw [heq] at hc
      exact UInt8.toNat_inj.mp hc.symm
    · rw [hmore, hsecond, decodeBlocks.eq_def]
      simp only [if_neg hfirst, hpair]
      cases decodeBlocks (position + 1) (utf8 more) <;> rfl

/-! ## Linking -/

/-- With digits in place of its placeholders, a text is read as code in which the addresses are
written over the ranges of the placeholders. -/
theorem decodeBlocks_fillPlaceholders {position : Nat} {text : List Char} {code : List UInt8}
    {ranges : List CodeRange} {addresses : List SpelledAddress}
    (h : decodeBlocks position (utf8 text) = some (code, ranges))
    (hlength : addresses.length = ranges.length) :
    ∃ filled, decodeBlocks position (utf8 (fillPlaceholders text addresses)) = some (filled, []) ∧
      ∀ front : List UInt8, front.length = position →
        front ++ filled = writeAddresses (front ++ code) ranges addresses := by
  induction hsize : text.length using Nat.strongRecOn
    generalizing position text code ranges addresses with
  | ind size ih =>
    subst hsize
    cases text with
    | nil =>
      have hempty : decodeBlocks position (utf8 []) = some ([], []) := by
        show decodeBlocks position [] = _
        rw [decodeBlocks]
      rw [hempty] at h
      cases h
      refine ⟨[], ?_, fun front _ => rfl⟩
      rw [fillPlaceholders, hempty]
    | cons c text =>
      rcases decodeBlocks_utf8_cons h with
        ⟨rfl, cut, behind, rest, others, hcut, hrest, rfl, rfl⟩ |
        ⟨hc, second, behind, byte, rest, rfl, hpair, hrest, rfl⟩
      · -- The digits of the first address take the place of the placeholder.
        obtain ⟨own, owns, rfl⟩ := List.exists_cons_of_length_eq_add_one hlength
        have hshorter : behind.length ≤ text.length := length_le_of_cutBytes hcut
        obtain ⟨filled, hfilled, hwritten⟩ := ih behind.length
          (Nat.lt_succ_of_le hshorter) hrest (Nat.succ.inj hlength) rfl
        refine ⟨own.address.bytes ++ filled, ?_, fun front hfront => ?_⟩
        · rw [fillPlaceholders_placeholder hcut, utf8_append, decodeBlocks_digits _ own.reads,
            own.address.length_bytes]
          show (decodeBlocks (position + addressLength) _).map _ = _
          rw [hfilled]
          rfl
        · have hzeros : own.address.bytes.length =
              (List.replicate addressLength (0 : UInt8)).length := by
            rw [own.address.length_bytes, List.length_replicate]
            rfl
          have hbehind : (front ++ own.address.bytes).length = position + addressLength := by
            rw [List.length_append, hfront, own.address.length_bytes]
            rfl
          calc front ++ (own.address.bytes ++ filled)
              = writeAddresses (front ++ own.address.bytes ++ rest) others owns := by
                rw [← List.append_assoc, hwritten _ hbehind]
            _ = writeAddresses (overwrite (front ++ (List.replicate addressLength 0 ++ rest))
                  position own.address.bytes) others owns := by
                rw [← hfront, overwrite_append rest hzeros, List.append_assoc]
            _ = _ := rfl
      · -- The pair stays, and its byte is one more in front.
        have hshorter : behind.length < (c :: second :: behind).length := by
          rw [List.length_cons, List.length_cons]
          omega
        obtain ⟨filled, hfilled, hwritten⟩ := ih behind.length hshorter hrest hlength rfl
        refine ⟨byte :: filled, ?_, fun front hfront => ?_⟩
        · rw [fillPlaceholders_pair hc, hpair, hfilled]
          rfl
        · have hbehind : (front ++ [byte]).length = position + 1 := by
            rw [List.length_append, hfront]
            rfl
          have hown := hwritten _ hbehind
          rwa [List.append_assoc, List.append_assoc] at hown

/-- A text that can be read has no marker in front of it. -/
theorem withoutLowerMarker_eq_self {position : Nat} {text : List Char}
    {result : List UInt8 × List CodeRange} (h : decodeBlocks position (utf8 text) = some result) :
    withoutLowerMarker text = text := by
  unfold withoutLowerMarker
  split
  · rename_i rest
    exfalso
    -- The marker would be a pair of digits.
    have hmarker : utf8 ('0' :: 'x' :: rest) = 0x30 :: 0x78 :: utf8 rest := rfl
    rw [hmarker] at h
    rcases decodeBlocks_cons h with ⟨hfirst, -⟩ | ⟨-, second, tail, byte, behind, htail, hpair, -⟩
    · exact absurd hfirst (by decide)
    · obtain ⟨rfl, -⟩ := List.cons.inj htail
      have hnone : pairValue 0x30 0x78 = none := by decide
      rw [hnone] at hpair
      cases hpair
  · rfl

/-- A linked text is read as the code of the unlinked one with the addresses written over the ranges
of its placeholders, and has no placeholders. -/
theorem decodeUnlinked_linkText {text : List Char} {code : List UInt8}
    {placeholders : List CodeRange} {addresses : List SpelledAddress}
    (h : decodeUnlinked text = some (code, placeholders))
    (hlength : addresses.length = placeholders.length) :
    decodeUnlinked (linkText text addresses) =
      some (writeAddresses code placeholders addresses, []) := by
  have hfill : ∀ unmarked, decodeBlocks 0 (utf8 unmarked) = some (code, placeholders) →
      decodeBlocks 0 (utf8 (fillPlaceholders unmarked addresses)) =
        some (writeAddresses code placeholders addresses, []) := by
    intro unmarked hread
    obtain ⟨filled, hfilled, hwritten⟩ := decodeBlocks_fillPlaceholders hread hlength
    rw [hfilled, show filled = _ from hwritten [] rfl]
    rfl
  unfold decodeUnlinked at h ⊢
  unfold linkText
  split
  · exact hfill _ h
  · rename_i hmarker
    have hunmarked : withoutLowerMarker text = text := by
      unfold withoutLowerMarker
      split
      · exact absurd rfl (hmarker _)
      · rfl
    rw [hunmarked] at h
    have hlinked := hfill text h
    rw [withoutLowerMarker_eq_self hlinked, hlinked]

/-- Where the code of a candidate changes when addresses are written over its link references, a
policy that ignores them tolerates it. -/
theorem MatchPolicy.covers_of_writeAddresses {policy : MatchPolicy} {candidate : Candidate}
    {ranges : List CodeRange} (addresses : List SpelledAddress)
    (hpolicy : policy.ignoreLinkReferences = true)
    (hlinks : ∀ range ∈ ranges, range ∈ candidate.linkReferences)
    (hfits : ∀ range ∈ ranges, range.FitsAddress candidate.code.length)
    (running : List UInt8) {position : Nat}
    (hdiffer : candidate.code[position]? ≠
      (writeAddresses candidate.code ranges addresses)[position]?) :
    ∃ range ∈ policy.tolerated candidate running, range.covers position = true := by
  by_cases hcovered : ∃ range ∈ ranges, range.covers position = true
  · obtain ⟨range, hrange, hcovers⟩ := hcovered
    exact ⟨range, mem_tolerated_iff.mpr (.inl ⟨hpolicy, hlinks range hrange⟩), hcovers⟩
  · refine absurd (getElem?_writeAddresses addresses hfits fun range hrange => ?_).symm hdiffer
    rw [Bool.eq_false_iff]
    exact fun hcovers => hcovered ⟨range, hrange, hcovers⟩

/-- Linking libraries never breaks a match. An unlinked text that is read as code with placeholders,
linked at any addresses in any spelling, is read as the code `L` with these addresses in the ranges
of the placeholders, and it has no placeholders left. If a policy ignores link references, the
candidate of bytecode with the unlinked text accepts `L`, as deployed code and as init code, and it
accepts `L` with anything behind it as init code where the policy allows arguments. -/
theorem MatchPolicy.accepts_linked {text : List Char} {code : List UInt8}
    {placeholders : List CodeRange} {addresses : List SpelledAddress}
    (hread : decodeUnlinked text = some (code, placeholders)) (hcode : code ≠ [])
    (hlength : addresses.length = placeholders.length) :
    decodeUnlinked (linkText text addresses) =
        some (writeAddresses code placeholders addresses, []) ∧
      ∀ (policy : MatchPolicy) (bytecode : Bytecode) (immutables : List CodeRange),
        policy.ignoreLinkReferences = true → bytecode.object = .unlinked text →
        ∃ candidate, Candidate.ofBytecode bytecode immutables = some candidate ∧
          (∀ isCreation,
            policy.accepts (writeAddresses code placeholders addresses) candidate isCreation =
              true) ∧
          (policy.allowConstructorArgs = true → ∀ more,
            policy.accepts (writeAddresses code placeholders addresses ++ more) candidate true =
              true) := by
  refine ⟨decodeUnlinked_linkText hread hlength, fun policy bytecode immutables hpolicy hobject => ?_⟩
  have hcandidate : Candidate.ofBytecode bytecode immutables =
      some ⟨code, placeholders ++ bytecode.linkReferences, immutables, metadataRange code⟩ := by
    unfold Candidate.ofBytecode
    rw [hobject]
    simp only [hread, Option.map_some]
  have hfits : ∀ range ∈ placeholders, range.FitsAddress code.length := by
    have h := fitsAddress_of_decodeBlocks hread
    rwa [Nat.zero_add] at h
  have hsame : (writeAddresses code placeholders addresses).length = code.length :=
    length_writeAddresses addresses hfits
  -- The linked code is as long as the candidate and differs from it in placeholders only.
  refine ⟨_, hcandidate, fun isCreation => ?_, fun hallow more => ?_⟩
  · rw [accepts_iff]
    refine ⟨hcode, Nat.le_of_eq hsame.symm, .inl hsame, fun position _ hdiffer => ?_⟩
    exact covers_of_writeAddresses addresses hpolicy
      (fun range hrange => List.mem_append_left _ hrange) hfits _ hdiffer
  · rw [accepts_iff, List.length_append, hsame]
    refine ⟨hcode, Nat.le_add_right _ _, .inr ⟨rfl, hallow⟩, fun position hposition hdiffer => ?_⟩
    rw [List.getElem?_append_left (by rw [hsame]; exact hposition)] at hdiffer
    exact covers_of_writeAddresses addresses hpolicy
      (fun range hrange => List.mem_append_left _ hrange) hfits _ hdiffer

/-- A byte and two placeholders, one right behind the other. -/
def unlinkedSample : List Char :=
  '0' :: '1' :: ('_' :: List.replicate 39 '$') ++ ('_' :: List.replicate 39 '$')

/-- An address in which every byte is the same. -/
def Address.repeated (byte : UInt8) : Address :=
  ⟨List.replicate 20 byte, List.length_replicate⟩

/-- Init code with two libraries, at different addresses, and an argument behind it. -/
theorem MatchPolicy.accepts_linked_adjacent :
    decodeUnlinked unlinkedSample = some (1 :: List.replicate 40 0, [⟨1, 21⟩, ⟨21, 41⟩]) ∧
      ∃ candidate,
        Candidate.ofBytecode ⟨.unlinked unlinkedSample, none, [], []⟩ [] = some candidate ∧
        MatchPolicy.accepts {} (1 :: List.replicate 20 0x11 ++ List.replicate 20 0x22 ++ [7])
          candidate true = true := by
  have hread : decodeUnlinked unlinkedSample =
      some (1 :: List.replicate 40 0, [⟨1, 21⟩, ⟨21, 41⟩]) := by
    cbv
  refine ⟨hread, ?_⟩
  obtain ⟨-, haccepts⟩ := accepts_linked hread (List.cons_ne_nil _ _)
    (rfl : [(Address.repeated 0x11).spelled, (Address.repeated 0x22).spelled].length = 2)
  obtain ⟨candidate, hcandidate, -, hmore⟩ :=
    haccepts {} ⟨.unlinked unlinkedSample, none, [], []⟩ [] rfl rfl
  exact ⟨candidate, hcandidate, hmore rfl [7]⟩

end CodeAtlas
