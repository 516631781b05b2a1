import CodeAtlas.Proofs.Bytecode.Linking

/-!
# Where the bytes of an unlinked text lie

Two characters of an unlinked text are one byte of its code, also in a placeholder, which is forty
characters for the twenty bytes of an address. So byte `k` of the code lies behind the characters
`2k` and `2k + 1`, whatever is in front of it (`Layout`), and linking moves nothing: each address
lies in the range of its placeholder, and all other bytes are where they were (`Linked`).

What is found in a code by its bytes may still be lost. A metadata section is found by the two bytes
of its length, and the high one may be the last byte of a placeholder. It is zero there, and the
section is not found any more when an address has another byte in its place
(`metadataRange_lengthInPlaceholder`).

`decodeUnlinked_layout` says this of every text that can be read, and of the digits of bytes, in
either letter case and with or without a marker, that they are read as the bytes (`Text.Spells`),
as they are when the text is taken for plain hexadecimal text.
-/

namespace CodeAtlas

open Text

/-! ## Layout -/

/-- How the code of a text of pairs and placeholders lies behind the text, from one of its bytes
on. -/
structure Layout (start : Nat) (text code : List UInt8) (placeholders : List CodeRange) :
    Prop where
  /-- Two characters are one byte. -/
  length_text : 2 * code.length = text.length
  /-- The placeholders are behind the start. -/
  behind : ∀ range ∈ placeholders, start ≤ range.start
  /-- A placeholder ends where the next one starts, or in front of it. -/
  ascending : placeholders.Pairwise fun range next => range.stop ≤ next.start
  /-- A placeholder is as long as an address and lies in the code. -/
  fits : ∀ range ∈ placeholders, range.FitsAddress code.length
  /-- The characters of a placeholder begin with an underscore. -/
  marked : ∀ range ∈ placeholders, text[2 * range.start]? = some underscore
  /-- The bytes of a placeholder are zero. -/
  zero : ∀ range ∈ placeholders, ∀ position, range.covers position = true →
    code[position]? = some 0
  /-- Every byte outside the placeholders is the value of its pair of characters. -/
  pair : ∀ position < code.length, start ≤ position →
    (∀ range ∈ placeholders, range.covers position = false) →
    ∃ first second byte, text[2 * position]? = some first ∧
      text[2 * position + 1]? = some second ∧ code[position]? = some byte ∧
      PairReads first second byte

namespace Layout

variable {start : Nat} {text code : List UInt8} {placeholders : List CodeRange}

/-- Nothing lies behind the end. -/
theorem nil (h : 2 * code.length = text.length) : Layout code.length text code [] where
  length_text := h
  behind _ hrange := absurd hrange List.not_mem_nil
  ascending := List.Pairwise.nil
  fits _ hrange := absurd hrange List.not_mem_nil
  marked _ hrange := absurd hrange List.not_mem_nil
  zero _ hrange := absurd hrange List.not_mem_nil
  pair _ hposition hstart := absurd hposition (Nat.not_lt.mpr hstart)

/-- A placeholder in front of a layout. -/
theorem placeholder (h : Layout (start + addressLength) text code placeholders)
    (hmarked : text[2 * start]? = some underscore)
    (hzero : ∀ position, start ≤ position → position < start + addressLength →
      code[position]? = some 0) :
    Layout start text code (⟨start, start + addressLength⟩ :: placeholders) where
  length_text := h.length_text
  behind := List.forall_mem_cons.mpr
    ⟨Nat.le_refl _, fun range hrange => Nat.le_of_add_right_le (h.behind range hrange)⟩
  ascending := List.pairwise_cons.mpr ⟨h.behind, h.ascending⟩
  fits := by
    refine List.forall_mem_cons.mpr ⟨⟨rfl, ?_⟩, h.fits⟩
    -- The last byte of the placeholder is there.
    have hlast : addressLength = 20 := rfl
    obtain ⟨hlt, -⟩ := List.getElem?_eq_some_iff.mp (hzero (start + 19) (by omega) (by omega))
    show start + addressLength ≤ code.length
    omega
  marked := List.forall_mem_cons.mpr ⟨hmarked, h.marked⟩
  zero := List.forall_mem_cons.mpr ⟨fun position hcovers => by
    obtain ⟨hlow, hhigh⟩ := CodeRange.covers_iff.mp hcovers
    exact hzero position hlow hhigh, h.zero⟩
  pair := by
    intro position hposition hstart hcovers
    obtain ⟨hown, hothers⟩ := List.forall_mem_cons.mp hcovers
    refine h.pair position hposition ?_ hothers
    rcases CodeRange.covers_eq_false_iff.mp hown with hfront | hbehind
    · exact absurd hfront (Nat.not_lt.mpr hstart)
    · exact hbehind

/-- A pair in front of a layout. -/
theorem pair_cons {first second byte : UInt8} (h : Layout (start + 1) text code placeholders)
    (hfirst : text[2 * start]? = some first) (hsecond : text[2 * start + 1]? = some second)
    (hbyte : code[start]? = some byte) (hreads : PairReads first second byte) :
    Layout start text code placeholders where
  length_text := h.length_text
  behind range hrange := Nat.le_of_succ_le (h.behind range hrange)
  ascending := h.ascending
  fits := h.fits
  marked := h.marked
  zero := h.zero
  pair := by
    intro position hposition hstart hcovers
    rcases Nat.eq_or_lt_of_le hstart with rfl | hlt
    · exact ⟨first, second, byte, hfirst, hsecond, hbyte, hreads⟩
    · exact h.pair position hposition hlt hcovers

end Layout

/-- What is read behind other characters lies behind their bytes. -/
theorem layout_of_decodeBlocks {position : Nat} {text code : List UInt8}
    {ranges : List CodeRange} (h : decodeBlocks position text = some (code, ranges)) :
    ∀ digits front : List UInt8, front.length = position → digits.length = 2 * position →
      Layout position (digits ++ text) (front ++ code) ranges := by
  refine decodeBlocks_induction ?_ ?_ ?_ h
  · rintro position digits front rfl hdigits
    rw [List.append_nil, List.append_nil]
    exact Layout.nil hdigits.symm
  · -- The characters of the placeholder are in front of the rest, and its zeros as well.
    rintro position name rest code ranges hname ih digits front rfl hdigits
    have hmarked : (digits ++ underscore :: (name ++ rest))[2 * front.length]? =
        some underscore := by
      rw [← hdigits, List.getElem?_append_right (Nat.le_refl _), Nat.sub_self]
      rfl
    have hfront : (front ++ List.replicate addressLength 0).length =
        front.length + addressLength := by
      rw [List.length_append, List.length_replicate]
    have hbehind : (digits ++ underscore :: name).length = 2 * (front.length + addressLength) := by
      rw [List.length_append, List.length_cons, hname, hdigits]
      show _ + (2 * 20 - 1 + 1) = 2 * (_ + 20)
      omega
    have hlayout := ih _ _ hfront hbehind
    rw [List.append_assoc, List.append_assoc, List.cons_append] at hlayout
    refine hlayout.placeholder hmarked fun position hlow hhigh => ?_
    rw [List.getElem?_append_right hlow,
      List.getElem?_append_left (by rw [List.length_replicate]; omega),
      List.getElem?_replicate, if_pos (by omega)]
  · -- The pair is in front of the rest, and its byte as well.
    rintro position first second byte rest code ranges - hpair ih digits front rfl hdigits
    have hfirst : (digits ++ first :: second :: rest)[2 * front.length]? = some first := by
      rw [← hdigits, List.getElem?_append_right (Nat.le_refl _), Nat.sub_self]
      rfl
    have hsecond : (digits ++ first :: second :: rest)[2 * front.length + 1]? = some second := by
      rw [← hdigits, List.getElem?_append_right (Nat.le_add_right _ _), Nat.add_sub_cancel_left]
      rfl
    have hbyte : (front ++ byte :: code)[front.length]? = some byte := by
      rw [List.getElem?_append_right (Nat.le_refl _), Nat.sub_self]
      rfl
    have hfront : (front ++ [byte]).length = front.length + 1 := List.length_append
    have hbehind : (digits ++ [first, second]).length = 2 * (front.length + 1) := by
      rw [List.length_append, hdigits]
      rfl
    have hlayout := ih _ _ hfront hbehind
    rw [List.append_assoc, List.append_assoc] at hlayout
    exact hlayout.pair_cons hfirst hsecond hbyte (pairValue_eq_some_iff.mp hpair)

/-! ## Linked code -/

/-- The bytes that are written stand where they are written. -/
theorem getElem?_overwrite_add {code bytes : List UInt8} {start offset : Nat}
    (h : start + bytes.length ≤ code.length) (hoffset : offset < bytes.length) :
    (overwrite code start bytes)[start + offset]? = bytes[offset]? := by
  have htake : (code.take start).length = start := by
    rw [List.length_take]
    omega
  unfold overwrite
  rw [List.append_assoc, List.getElem?_append_right (by omega), htake, Nat.add_sub_cancel_left,
    List.getElem?_append_left hoffset]

/-- A range of a code has given bytes if each of them is in its place. -/
theorem slice_eq_some {code bytes : List UInt8} {range : CodeRange}
    (hstop : range.stop = range.start + bytes.length) (hfits : range.stop ≤ code.length)
    (h : ∀ offset < bytes.length, code[range.start + offset]? = bytes[offset]?) :
    slice code range = some bytes := by
  unfold slice
  rw [if_pos ⟨by omega, hfits⟩, Option.some.injEq]
  apply List.ext_getElem?
  intro offset
  rw [List.getElem?_drop]
  by_cases hoffset : offset < bytes.length
  · rw [List.getElem?_take_of_lt (by omega), h offset hoffset]
  · rw [List.getElem?_eq_none (l := bytes) (by omega), List.getElem?_eq_none]
    rw [List.length_take]
    omega

/-- Each address stands in its range. -/
theorem slice_writeAddresses {code : List UInt8} {ranges : List CodeRange}
    {addresses : List SpelledAddress} (hfits : ∀ range ∈ ranges, range.FitsAddress code.length)
    (hascending : ranges.Pairwise fun range next => range.stop ≤ next.start) :
    ∀ range own, (range, own) ∈ ranges.zip addresses →
      slice (writeAddresses code ranges addresses) range = some own.address.bytes := by
  induction ranges generalizing code addresses with
  | nil => exact fun range own hmem => absurd hmem List.not_mem_nil
  | cons first rest ih =>
    cases addresses with
    | nil => exact fun range own hmem => absurd hmem List.not_mem_nil
    | cons address others =>
      obtain ⟨⟨hstop, hfirst⟩, hrest⟩ := List.forall_mem_cons.mp hfits
      obtain ⟨hbehind, hascending⟩ := List.pairwise_cons.mp hascending
      have hbytes : first.stop = first.start + address.address.bytes.length := by
        rw [address.address.length_bytes, hstop]
        rfl
      have hwritten : (overwrite code first.start address.address.bytes).length = code.length :=
        length_overwrite (hbytes ▸ hfirst)
      have hothers : ∀ range ∈ rest, range.FitsAddress
          (overwrite code first.start address.address.bytes).length := hwritten.symm ▸ hrest
      intro range own hmem
      rcases List.mem_cons.mp hmem with heq | hmem
      · cases heq
        refine slice_eq_some hbytes ?_ fun offset hoffset => ?_
        · exact (length_writeAddresses others hothers).symm ▸ hwritten.symm ▸ hfirst
        · -- The other addresses are written behind this one.
          have hkept : ∀ next ∈ rest, next.covers (first.start + offset) = false :=
            fun next hnext => by
              have := hbehind next hnext
              exact CodeRange.covers_eq_false_iff.mpr (.inl (by omega))
          exact (getElem?_writeAddresses others hothers hkept).trans
            (getElem?_overwrite_add (hbytes ▸ hfirst) hoffset)
      · exact ih hothers hascending range own hmem

/-- How code with the addresses of libraries lies where code with zeros in their place does. -/
structure Linked (code : List UInt8) (placeholders : List CodeRange)
    (addresses : List SpelledAddress) (linked : List UInt8) : Prop where
  /-- Nothing is inserted or removed. -/
  length_eq : linked.length = code.length
  /-- A byte outside the placeholders is where it was. -/
  kept : ∀ position, (∀ range ∈ placeholders, range.covers position = false) →
    linked[position]? = code[position]?
  /-- Each address is in the range of its placeholder. -/
  addressed : ∀ range own, (range, own) ∈ placeholders.zip addresses →
    slice linked range = some own.address.bytes
  /-- A metadata section starts where it did. It is found there if and only if the high byte of its
  length is the same, which an address may replace. -/
  metadata : ∀ range, metadataRange code = some range →
    linked[range.start]? = code[range.start]? ∧
      (metadataRange linked = some range ↔ linked[range.stop - 2]? = code[range.stop - 2]?)

/-- A placeholder covers neither the start of a metadata section nor the low byte of its length. -/
theorem Layout.covers_of_metadataRange {text code : List UInt8} {placeholders : List CodeRange}
    (h : Layout 0 text code placeholders) {metadata : CodeRange}
    (hmetadata : metadataRange code = some metadata) :
    ∀ range ∈ placeholders, range.covers metadata.start = false ∧
      range.covers (code.length - 1) = false := by
  obtain ⟨high, low, length, rfl, hhigh, hlow, hpositive, -, hmap, rfl⟩ :=
    metadataRange_eq_some_iff.mp hmetadata
  intro range hrange
  constructor
  · -- A zero byte starts no map.
    rw [Bool.eq_false_iff]
    intro hcovers
    rw [h.zero range hrange _ hcovers] at hmap
    exact absurd hmap (by decide)
  · rw [Bool.eq_false_iff]
    intro hcovers
    obtain ⟨hstop, hfits⟩ := h.fits range hrange
    obtain ⟨hstart, hend⟩ := CodeRange.covers_iff.mp hcovers
    have hlong : addressLength = 20 := rfl
    -- The placeholder is longer than two bytes, so both bytes of the length are zero.
    have hcoversHigh : range.covers (code.length - 2) = true :=
      CodeRange.covers_iff.mpr ⟨by omega, by omega⟩
    rw [h.zero range hrange _ hcovers] at hlow
    rw [h.zero range hrange _ hcoversHigh] at hhigh
    cases hlow
    cases hhigh
    exact absurd hpositive (by decide)

/-- Writing addresses into the placeholders of a text moves nothing. -/
theorem Layout.linked {text code : List UInt8} {placeholders : List CodeRange}
    (h : Layout 0 text code placeholders) (addresses : List SpelledAddress) :
    Linked code placeholders addresses (writeAddresses code placeholders addresses) := by
  have hlength := length_writeAddresses addresses h.fits
  have hkept : ∀ position, (∀ range ∈ placeholders, range.covers position = false) →
      (writeAddresses code placeholders addresses)[position]? = code[position]? :=
    fun position hposition => getElem?_writeAddresses addresses h.fits hposition
  refine ⟨hlength, hkept, slice_writeAddresses h.fits h.ascending, fun range hmetadata => ?_⟩
  have hcovers := h.covers_of_metadataRange hmetadata
  have hstart := hkept _ fun placeholder hmem => (hcovers placeholder hmem).1
  have hlast := hkept _ fun placeholder hmem => (hcovers placeholder hmem).2
  exact ⟨hstart, metadataRange_congr_iff hmetadata hlength hstart hlast⟩

/-! ## Spellings of bytes -/

/-- A text is the digits of bytes, each in one of its letter cases. -/
def Text.Spells (digits : List Char) (bytes : List UInt8) : Prop :=
  digits.map Char.toLower = toHex bytes

/-- The code of a letter is 32 less as a capital, and other characters have one form only. -/
theorem toNat_toLower (c : Char) :
    c.toLower.toNat = if 65 ≤ c.toNat ∧ c.toNat ≤ 90 then c.toNat + 32 else c.toNat := by
  have hcapital : (c.val ≥ 'A'.val ∧ c.val ≤ 'Z'.val) ↔ 65 ≤ c.toNat ∧ c.toNat ≤ 90 := by
    rw [ge_iff_le, UInt32.le_iff_toNat_le, UInt32.le_iff_toNat_le]
    rfl
  unfold Char.toLower
  by_cases h : 65 ≤ c.toNat ∧ c.toNat ≤ 90
  · rw [dif_pos (hcapital.mpr h), if_pos h]
    show (c.val + 32).toNat = c.val.toNat + 32
    have hval : c.val.toNat = c.toNat := rfl
    have hdistance : (32 : UInt32).toNat = 32 := rfl
    rw [UInt32.toNat_add, hdistance, Nat.mod_eq_of_lt (by omega)]
  · rw [dif_neg fun hletter => h (hcapital.mp hletter), if_neg h]

/-- The code of a digit in lower case. -/
theorem toNat_hexDigit :
    ∀ value < 16, (hexDigit value).toNat = if value < 10 then 48 + value else 87 + value := by
  decide

/-- A character has a value if it is the digit of the value in one of its letter cases. -/
theorem toLower_eq_hexDigit_iff {c : Char} {value : Nat} (hvalue : value < 16) :
    c.toLower = hexDigit value ↔ hexValue c.toNat = some value := by
  rw [← Char.toNat_inj, toNat_toLower, toNat_hexDigit value hvalue, hexValue_eq_some_iff]
  split <;> split <;> omega

/-- In either letter case a digit has its value, and it is one byte of a text. -/
theorem hexValue_of_toLower {c : Char} {value : Nat} (hvalue : value < 16)
    (h : c.toLower = hexDigit value) :
    ∃ byte : UInt8, String.utf8EncodeChar c = [byte] ∧ hexValue byte.toNat = some value := by
  have hdigit : hexValue c.toNat = some value := (toLower_eq_hexDigit_iff hvalue).mp h
  have hascii := (lt_of_hexValue hdigit).1
  refine ⟨UInt8.ofNat c.toNat, ?_, ?_⟩
  · unfold String.utf8EncodeChar
    exact if_pos (Nat.le_of_lt_succ hascii)
  · rw [UInt8.toNat_ofNat_of_lt' (Nat.lt_trans hascii (by decide)), hdigit]

/-- The digits of bytes read as the bytes, whatever their letter case is. -/
theorem ofHex_of_spells {digits : List Char} {bytes : List UInt8} (h : Spells digits bytes) :
    ofHex (utf8 digits) = some bytes := by
  unfold Spells at h
  induction bytes generalizing digits with
  | nil =>
    obtain rfl := List.map_eq_nil_iff.mp h
    rfl
  | cons byte bytes ih =>
    obtain ⟨high, behind, rfl, hhigh, hbehind⟩ := List.map_eq_cons_iff.mp h
    obtain ⟨low, rest, rfl, hlow, hrest⟩ := List.map_eq_cons_iff.mp hbehind
    have hsmall := byte.toNat_lt
    obtain ⟨highByte, hhighByte, hhighValue⟩ := hexValue_of_toLower (by omega) hhigh
    obtain ⟨lowByte, hlowByte, hlowValue⟩ := hexValue_of_toLower (by omega) hlow
    have htext : utf8 (high :: low :: rest) = highByte :: lowByte :: utf8 rest := by
      rw [utf8_cons, utf8_cons, hhighByte, hlowByte]
      rfl
    have hwhole : UInt8.ofNat (16 * (byte.toNat / 16) + byte.toNat % 16) = byte := by
      rw [Nat.div_add_mod, UInt8.ofNat_toNat]
    rw [htext, ofHex, hhighValue, hlowValue, ih hrest]
    show some (UInt8.ofNat (16 * (byte.toNat / 16) + byte.toNat % 16) :: bytes) = _
    rw [hwhole]

/-- The digits of bytes are read as the bytes by the reader of unlinked text. -/
theorem decodeBlocks_of_spells {digits : List Char} {bytes : List UInt8} (h : Spells digits bytes) :
    decodeBlocks 0 (utf8 digits) = some (bytes, []) := by
  have hread : decodeBlocks 0 (utf8 digits ++ []) = _ := decodeBlocks_digits [] (ofHex_of_spells h)
  rw [List.append_nil] at hread
  rw [hread, decodeBlocks]
  show some (bytes ++ [], []) = _
  rw [List.append_nil]

/-- Digits have no marker in front. -/
theorem withoutMarker_eq_self {digits : List Char} {bytes : List UInt8}
    (h : ofHex (utf8 digits) = some bytes) : withoutMarker digits = digits := by
  have hnone : ∀ (marker : UInt8) (rest : List UInt8), hexValue marker.toNat = none →
      ofHex (0x30 :: marker :: rest) = none := by
    intro marker rest hmarker
    rw [ofHex, hmarker]
    rfl
  unfold withoutMarker
  split
  · rename_i rest
    have hmarker : ofHex (utf8 ('0' :: 'x' :: rest)) = none := hnone 0x78 (utf8 rest) (by decide)
    rw [hmarker] at h
    cases h
  · rename_i rest
    have hmarker : ofHex (utf8 ('0' :: 'X' :: rest)) = none := hnone 0x58 (utf8 rest) (by decide)
    rw [hmarker] at h
    cases h
  · rfl

/-- Digits, with or without a marker, are plain text, and read as unlinked text they give the same
bytes. -/
theorem read_of_spells {digits : List Char} {bytes : List UInt8} (h : Spells digits bytes)
    {text : List Char} (htext : text = digits ∨ text = '0' :: 'x' :: digits) :
    decodeUnlinked text = some (bytes, []) ∧
      CodeObject.ofText (String.ofList text) = .plain bytes := by
  have hread := decodeBlocks_of_spells h
  have hhex := ofHex_of_spells h
  unfold decodeUnlinked CodeObject.ofText
  rw [String.toList_ofList]
  rcases htext with rfl | rfl
  · rw [withoutLowerMarker_eq_self hread, withoutMarker_eq_self hhex, hhex]
    exact ⟨hread, rfl⟩
  · have hunmarked : withoutMarker ('0' :: 'x' :: digits) = digits := rfl
    rw [hunmarked, hhex]
    exact ⟨hread, rfl⟩

/-! ## Unlinked texts -/

/-- In every text that can be read, without its marker, two characters are one byte of the code. The
placeholders ascend, do not overlap, have the length of an address, lie in the code, begin with an
underscore and are zero, and every other byte is the value of its pair. The text with addresses in
place of its placeholders is read as code in which each address is in the range of its placeholder
and everything else is where it was. A metadata section starts where it did, and it is found there
if and only if no address changes the high byte of its length. Moreover the digits of bytes, in any
letter case and with or without a marker, are read as the bytes, without placeholders, and they are
plain text of the same bytes. -/
theorem decodeUnlinked_layout :
    (∀ (text : List Char) (code : List UInt8) (placeholders : List CodeRange),
      decodeUnlinked text = some (code, placeholders) →
      Layout 0 (utf8 (withoutLowerMarker text)) code placeholders ∧
      ∀ addresses : List SpelledAddress, addresses.length = placeholders.length →
        ∃ linked, decodeUnlinked (linkText text addresses) = some (linked, []) ∧
          Linked code placeholders addresses linked) ∧
    ∀ (bytes : List UInt8) (digits : List Char), Spells digits bytes →
      ∀ text, (text = digits ∨ text = '0' :: 'x' :: digits) →
        decodeUnlinked text = some (bytes, []) ∧
          CodeObject.ofText (String.ofList text) = .plain bytes := by
  constructor
  · intro text code placeholders hread
    have hlayout : Layout 0 ([] ++ utf8 (withoutLowerMarker text)) ([] ++ code) placeholders :=
      layout_of_decodeBlocks hread [] [] rfl rfl
    refine ⟨hlayout, fun addresses hlength => ?_⟩
    exact ⟨_, decodeUnlinked_linkText hread hlength, hlayout.linked addresses⟩
  · intro bytes digits hspells text htext
    exact read_of_spells hspells htext

/-- A placeholder and, behind it, a metadata section that has the start of a map only. -/
def unlinkedSection : List Char :=
  '0' :: 'x' :: '_' :: List.replicate 39 '$' ++ ['A', '1', '0', '0', '0', '1']

/-- The address is in the range of the placeholder, the metadata section is where it was, and digits
in both letter cases are read as bytes. -/
theorem decodeUnlinked_layout_of_section :
    decodeUnlinked unlinkedSection =
        some (List.replicate 20 0 ++ [0xa1, 0x00, 0x01], [⟨0, 20⟩]) ∧
      (∃ linked, decodeUnlinked (linkText unlinkedSection [(Address.repeated 0x11).spelled]) =
          some (linked, []) ∧ linked.length = 23 ∧
        slice linked ⟨0, 20⟩ = some (List.replicate 20 0x11) ∧
        metadataRange linked = some ⟨20, 23⟩) ∧
      decodeUnlinked ['0', 'x', 'a', 'B'] = some ([0xab], []) := by
  have hread : decodeUnlinked unlinkedSection =
      some (List.replicate 20 0 ++ [0xa1, 0x00, 0x01], [⟨0, 20⟩]) := by
    cbv
  obtain ⟨hunlinked, hspelled⟩ := decodeUnlinked_layout
  obtain ⟨-, hlinked⟩ := hunlinked _ _ _ hread
  obtain ⟨linked, htext, hlies⟩ := hlinked [(Address.repeated 0x11).spelled] rfl
  have hmetadata : metadataRange (List.replicate 20 0 ++ [0xa1, 0x00, 0x01]) = some ⟨20, 23⟩ := by
    decide
  -- No placeholder covers the high byte of the length.
  have hhigh := hlies.kept 21 (List.forall_mem_singleton.mpr (by decide))
  refine ⟨hread, ⟨linked, htext, hlies.length_eq, ?_, ?_⟩, ?_⟩
  · exact hlies.addressed ⟨0, 20⟩ _ (List.mem_singleton.mpr rfl)
  · exact (hlies.metadata _ hmetadata).2.mpr hhigh
  · exact (hspelled [0xab] ['a', 'B'] rfl _ (.inr rfl)).1

/-- The start of a map, a placeholder, and the low byte of a length whose high byte is the last one
of the placeholder. -/
def lengthInPlaceholder : List Char :=
  'a' :: '1' :: '_' :: List.replicate 39 '$' ++ ['1', '4']

/-- The metadata section of a code with zeros in place of an address is not always that of the
linked code. Here the last byte of the address makes the length larger than the code. -/
theorem metadataRange_lengthInPlaceholder :
    decodeUnlinked lengthInPlaceholder =
        some (0xa1 :: List.replicate 20 0 ++ [0x14], [⟨1, 21⟩]) ∧
      metadataRange (0xa1 :: List.replicate 20 0 ++ [0x14]) = some ⟨0, 22⟩ ∧
      decodeUnlinked (linkText lengthInPlaceholder [(Address.repeated 0x11).spelled]) =
        some (0xa1 :: List.replicate 20 0x11 ++ [0x14], []) ∧
      metadataRange (0xa1 :: List.replicate 20 0x11 ++ [0x14]) = none := by
  have hread : decodeUnlinked lengthInPlaceholder =
      some (0xa1 :: List.replicate 20 0 ++ [0x14], [⟨1, 21⟩]) := by
    cbv
  have hwritten : writeAddresses (0xa1 :: List.replicate 20 0 ++ [0x14]) [⟨1, 21⟩]
      [(Address.repeated 0x11).spelled] = 0xa1 :: List.replicate 20 0x11 ++ [0x14] := by
    decide
  have hlinked : decodeUnlinked (linkText lengthInPlaceholder [(Address.repeated 0x11).spelled]) =
      some (0xa1 :: List.replicate 20 0x11 ++ [0x14], []) := by
    rw [decodeUnlinked_linkText hread rfl, hwritten]
  exact ⟨hread, by decide, hlinked, by decide⟩

end CodeAtlas
