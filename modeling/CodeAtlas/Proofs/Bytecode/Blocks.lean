import CodeAtlas.Proofs.Bytecode
import Mathlib.Computability.Language

/-!
# Blocks of an unlinked text

The text of a code that is not linked yet is a row of blocks: pairs of hexadecimal digits, and
placeholders of forty bytes that begin with an underscore (`digitPair`, `placeholder`). What can
be read is a little more than that. A pair is read as a number, and a number may have a plus sign in
front, so that a plus sign and one digit is a block, too (`signedDigit`).

The rows of blocks are the Kleene closure of a language of blocks. The reader accepts the closure of
all three kinds (`isSome_decodeBlocks_iff`), and since the first byte of a block tells how long it
is, a text is a row of blocks in one way only (`eq_of_flatten_eq`). From this follows which texts
are accepted without being hexadecimal (`Candidate.isSome_ofBytecode_unlinked_iff`).
-/

namespace CodeAtlas

open Text
open scoped Computability

/-! ## Digits and pairs -/

/-- A byte is the ASCII code of a hexadecimal digit, in either letter case. -/
def IsHexDigit (byte : UInt8) : Prop :=
  (0x30 ≤ byte ∧ byte ≤ 0x39) ∨ (0x41 ≤ byte ∧ byte ≤ 0x46) ∨ (0x61 ≤ byte ∧ byte ≤ 0x66)

instance (byte : UInt8) : Decidable (IsHexDigit byte) :=
  inferInstanceAs (Decidable (_ ∨ _))

/-- The ASCII code of the plus sign. -/
def plusSign : UInt8 := 0x2b

/-- The digits are those of the three ranges. -/
theorem hexValue_eq_some_iff {code value : Nat} :
    hexValue code = some value ↔
      (48 ≤ code ∧ code ≤ 57 ∧ code = value + 48) ∨ (97 ≤ code ∧ code ≤ 102 ∧ code = value + 87) ∨
        (65 ≤ code ∧ code ≤ 70 ∧ code = value + 55) := by
  unfold hexValue
  split
  · rw [Option.some.injEq]
    omega
  · split
    · rw [Option.some.injEq]
      omega
    · split
      · rw [Option.some.injEq]
        omega
      · constructor
        · intro hnone
          cases hnone
        · omega

/-- The code of a digit is below 128, and it is neither the code of an underscore nor that of a plus
sign. -/
theorem lt_of_hexValue {code value : Nat} (h : hexValue code = some value) :
    code < 128 ∧ code ≠ 0x5f ∧ code ≠ 0x2b := by
  rw [hexValue_eq_some_iff] at h
  omega

/-- The value of a digit is below sixteen. -/
theorem hexValue_lt {code value : Nat} (h : hexValue code = some value) : value < 16 := by
  rw [hexValue_eq_some_iff] at h
  omega

/-- The digits are the bytes that have a value. -/
theorem exists_hexValue_iff {byte : UInt8} :
    (∃ value, hexValue byte.toNat = some value) ↔ IsHexDigit byte := by
  unfold IsHexDigit
  simp only [UInt8.le_iff_toNat_le, UInt8.reduceToNat, hexValue_eq_some_iff]
  constructor
  · rintro ⟨value, hvalue⟩
    omega
  · rintro (hdecimal | hcapital | hsmall)
    · exact ⟨byte.toNat - 48, by omega⟩
    · exact ⟨byte.toNat - 55, by omega⟩
    · exact ⟨byte.toNat - 87, by omega⟩

/-- No digit is an underscore or a plus sign. -/
theorem IsHexDigit.ne {byte : UInt8} (h : IsHexDigit byte) :
    byte ≠ underscore ∧ byte ≠ plusSign := by
  obtain ⟨value, hvalue⟩ := exists_hexValue_iff.mpr h
  obtain ⟨-, hunderscore, hplus⟩ := lt_of_hexValue hvalue
  exact ⟨fun heq => hunderscore (congrArg UInt8.toNat heq),
    fun heq => hplus (congrArg UInt8.toNat heq)⟩

/-- Two bytes of a text stand for a byte of the code. -/
inductive PairReads (first second byte : UInt8) : Prop
  /-- They are digits, and the first counts sixteen times. -/
  | digits (high low : Nat) (first_value : hexValue first.toNat = some high)
      (second_value : hexValue second.toNat = some low) (byte_eq : byte.toNat = 16 * high + low)
  /-- The first is a plus sign, and the second a digit. -/
  | signed (first_eq : first = plusSign) (second_value : hexValue second.toNat = some byte.toNat)

/-- The value of a pair is the byte that it stands for. -/
theorem pairValue_eq_some_iff {first second byte : UInt8} :
    pairValue first second = some byte ↔ PairReads first second byte := by
  unfold pairValue
  constructor
  · intro h
    split at h
    · rename_i hplus
      obtain ⟨low, hlow, rfl⟩ := Option.map_eq_some_iff.mp h
      have hlow_lt := hexValue_lt hlow
      have hvalue : (UInt8.ofNat low).toNat = low :=
        UInt8.toNat_ofNat_of_lt' (show low < 256 by omega)
      exact .signed hplus (hvalue.symm ▸ hlow)
    · obtain ⟨high, hhigh, hpair⟩ := Option.bind_eq_some_iff.mp h
      obtain ⟨low, hlow, hbyte⟩ := Option.bind_eq_some_iff.mp hpair
      have hhigh_lt := hexValue_lt hhigh
      have hlow_lt := hexValue_lt hlow
      cases hbyte
      have hsmall : 16 * high + low < 256 := by omega
      exact .digits high low hhigh hlow (UInt8.toNat_ofNat_of_lt' hsmall)
  · rintro (⟨high, low, hhigh, hlow, hbyte⟩ | ⟨hplus, hlow⟩)
    · -- A plus sign has no value, so the first is none.
      have hsign : first ≠ 0x2b := fun heq =>
        (lt_of_hexValue hhigh).2.2 (congrArg UInt8.toNat heq)
      have hvalue : UInt8.ofNat (16 * high + low) = byte := by
        rw [← hbyte, UInt8.ofNat_toNat]
      rw [if_neg hsign, hhigh, hlow, ← hvalue]
      rfl
    · have hsign : first = 0x2b := hplus
      rw [if_pos hsign, hlow, Option.map_some, UInt8.ofNat_toNat]

/-- A pair has a value if and only if it is two digits, or a plus sign and a digit. -/
theorem exists_pairValue_iff {first second : UInt8} :
    (∃ byte, pairValue first second = some byte) ↔
      (IsHexDigit first ∨ first = plusSign) ∧ IsHexDigit second := by
  simp only [pairValue_eq_some_iff, ← exists_hexValue_iff]
  constructor
  · rintro ⟨byte, ⟨high, low, hhigh, hlow, -⟩ | ⟨hplus, hlow⟩⟩
    · exact ⟨.inl ⟨high, hhigh⟩, low, hlow⟩
    · exact ⟨.inr hplus, byte.toNat, hlow⟩
  · rintro ⟨⟨high, hhigh⟩ | hplus, low, hlow⟩
    · have hhigh_lt := hexValue_lt hhigh
      have hlow_lt := hexValue_lt hlow
      have hsmall : 16 * high + low < 256 := by omega
      exact ⟨UInt8.ofNat (16 * high + low),
        .digits high low hhigh hlow (UInt8.toNat_ofNat_of_lt' hsmall)⟩
    · have hlow_lt := hexValue_lt hlow
      have hvalue : (UInt8.ofNat low).toNat = low :=
        UInt8.toNat_ofNat_of_lt' (show low < 256 by omega)
      exact ⟨UInt8.ofNat low, .signed hplus (hvalue.symm ▸ hlow)⟩

/-- Both bytes of a pair are below 128. -/
theorem lt_of_pairValue {first second byte : UInt8} (h : pairValue first second = some byte) :
    first.toNat < 128 ∧ second.toNat < 128 := by
  rcases pairValue_eq_some_iff.mp h with ⟨high, low, hhigh, hlow, -⟩ | ⟨rfl, hlow⟩
  · exact ⟨(lt_of_hexValue hhigh).1, (lt_of_hexValue hlow).1⟩
  · exact ⟨by decide, (lt_of_hexValue hlow).1⟩

/-! ## Reading blocks -/

/-- A placeholder that is there is read as zeros, and its range is noted. -/
theorem decodeBlocks_placeholder (position : Nat) {rest : List UInt8}
    (h : 2 * addressLength - 1 ≤ rest.length) :
    decodeBlocks position (underscore :: rest) =
      (decodeBlocks (position + addressLength) (rest.drop (2 * addressLength - 1))).map
        fun (code, ranges) => (List.replicate addressLength 0 ++ code,
          ⟨position, position + addressLength⟩ :: ranges) := by
  have hlength : 2 * addressLength ≤ (underscore :: rest).length := by
    rw [List.length_cons]
    omega
  rw [decodeBlocks.eq_def]
  dsimp only
  rw [if_pos rfl, if_pos hlength]
  cases decodeBlocks (position + addressLength) (rest.drop (2 * addressLength - 1)) <;> rfl

/-- A pair is read as the byte of its value, if it has one. -/
theorem decodeBlocks_pair (position : Nat) {first : UInt8} (h : first ≠ underscore)
    (second : UInt8) (rest : List UInt8) :
    decodeBlocks position (first :: second :: rest) = (pairValue first second).bind fun byte =>
      (decodeBlocks (position + 1) rest).map fun (code, ranges) => (byte :: code, ranges) := by
  rw [decodeBlocks, if_neg h]
  cases pairValue first second with
  | none => rfl
  | some byte => cases decodeBlocks (position + 1) rest <;> rfl

/-- A text that can be read starts with a placeholder or with a pair of digits, and what is behind
can be read. -/
theorem decodeBlocks_cons {position : Nat} {first : UInt8} {rest code : List UInt8}
    {ranges : List CodeRange} (h : decodeBlocks position (first :: rest) = some (code, ranges)) :
    (first = underscore ∧ 2 * addressLength - 1 ≤ rest.length ∧ ∃ behind others,
      decodeBlocks (position + addressLength) (rest.drop (2 * addressLength - 1)) =
        some (behind, others) ∧
      code = List.replicate addressLength 0 ++ behind ∧
      ranges = ⟨position, position + addressLength⟩ :: others) ∨
    (first ≠ underscore ∧ ∃ second tail byte behind, rest = second :: tail ∧
      pairValue first second = some byte ∧
      decodeBlocks (position + 1) tail = some (behind, ranges) ∧ code = byte :: behind) := by
  rw [decodeBlocks.eq_def] at h
  dsimp only at h
  split at h
  · rename_i hfirst
    split at h
    · rename_i hlength
      obtain ⟨⟨behind, others⟩, hbehind, hwhole⟩ := Option.bind_eq_some_iff.mp h
      cases hwhole
      rw [List.length_cons] at hlength
      exact .inl ⟨hfirst, by omega, behind, others, hbehind, rfl, rfl⟩
    · cases h
  · rename_i hfirst
    split at h
    · cases h
    · rename_i second tail
      obtain ⟨byte, hbyte, hpair⟩ := Option.bind_eq_some_iff.mp h
      obtain ⟨⟨behind, others⟩, hbehind, hwhole⟩ := Option.bind_eq_some_iff.mp hpair
      cases hwhole
      exact .inr ⟨hfirst, second, tail, byte, behind, rfl, hbyte, hbehind, rfl⟩

/-- What holds of the empty text, and of a text with a placeholder or a pair in front if it holds of the
text behind, holds of every text that can be read. -/
@[elab_as_elim]
theorem decodeBlocks_induction {motive : Nat → List UInt8 → List UInt8 → List CodeRange → Prop}
    (nil : ∀ position, motive position [] [] [])
    (placeholder : ∀ position name rest code ranges, name.length = 2 * addressLength - 1 →
      motive (position + addressLength) rest code ranges →
      motive position (underscore :: (name ++ rest)) (List.replicate addressLength 0 ++ code)
        (⟨position, position + addressLength⟩ :: ranges))
    (pair : ∀ position first second byte rest code ranges, first ≠ underscore →
      pairValue first second = some byte → motive (position + 1) rest code ranges →
      motive position (first :: second :: rest) (byte :: code) ranges)
    {position : Nat} {text code : List UInt8} {ranges : List CodeRange}
    (h : decodeBlocks position text = some (code, ranges)) : motive position text code ranges := by
  induction hsize : text.length using Nat.strongRecOn generalizing position text code ranges with
  | ind size ih =>
    subst hsize
    cases text with
    | nil =>
      rw [decodeBlocks] at h
      cases h
      exact nil position
    | cons first rest =>
      rcases decodeBlocks_cons h with
        ⟨rfl, hlength, behind, others, hbehind, rfl, rfl⟩ |
        ⟨hfirst, second, tail, byte, behind, rfl, hpair, hbehind, rfl⟩
      · have hshorter : (rest.drop (2 * addressLength - 1)).length <
            (underscore :: rest).length := by
          rw [List.length_drop, List.length_cons]
          omega
        have hwhole := placeholder position _ _ _ _ (List.length_take_of_le hlength)
          (ih _ hshorter hbehind rfl)
        rwa [List.take_append_drop] at hwhole
      · have hshorter : tail.length < (first :: second :: tail).length := by
          rw [List.length_cons, List.length_cons]
          omega
        exact pair position first second byte tail _ _ hfirst hpair (ih _ hshorter hbehind rfl)

/-- The first byte of a text that can be read is below 128. -/
theorem lt_of_decodeBlocks {position : Nat} {text : List UInt8} {byte : UInt8}
    {result : List UInt8 × List CodeRange} (h : decodeBlocks position text = some result)
    (hbyte : text.head? = some byte) : byte.toNat < 128 := by
  cases text with
  | nil => cases hbyte
  | cons first rest =>
    cases hbyte
    rcases decodeBlocks_cons h with ⟨rfl, -⟩ | ⟨-, second, tail, value, behind, -, hpair, -⟩
    · decide
    · exact (lt_of_pairValue hpair).1

/-- Digits in front of a text are read as their bytes. -/
theorem decodeBlocks_digits {position : Nat} {digits bytes : List UInt8} (rest : List UInt8)
    (h : ofHex digits = some bytes) :
    decodeBlocks position (digits ++ rest) =
      (decodeBlocks (position + bytes.length) rest).map fun (code, ranges) =>
        (bytes ++ code, ranges) := by
  fun_induction ofHex digits generalizing position bytes with
  | case1 =>
    cases h
    exact (Option.map_id' (x := decodeBlocks position rest)).symm
  | case2 => cases h
  | case3 high low others ih =>
    obtain ⟨highValue, hhigh, h⟩ := Option.bind_eq_some_iff.mp h
    obtain ⟨lowValue, hlow, h⟩ := Option.bind_eq_some_iff.mp h
    obtain ⟨behind, hbehind, hbytes⟩ := Option.bind_eq_some_iff.mp h
    cases hbytes
    have hdigit : IsHexDigit high := exists_hexValue_iff.mp ⟨highValue, hhigh⟩
    have hsign : high ≠ 0x2b := hdigit.ne.2
    have hpair : pairValue high low = some (UInt8.ofNat (16 * highValue + lowValue)) := by
      rw [pairValue, if_neg hsign, hhigh, hlow]
      rfl
    have hlength : position + (behind.length + 1) = position + 1 + behind.length := by omega
    rw [List.cons_append, List.cons_append, decodeBlocks_pair _ hdigit.ne.1, hpair,
      Option.bind_some, ih hbehind, List.length_cons, hlength, Option.map_map]
    rfl

/-! ## The language of the reader -/

/-- Two hexadecimal digits. -/
def digitPair : Language UInt8 :=
  {block | ∃ first second, IsHexDigit first ∧ IsHexDigit second ∧ block = [first, second]}

/-- A plus sign and a hexadecimal digit. -/
def signedDigit : Language UInt8 :=
  {block | ∃ digit, IsHexDigit digit ∧ block = [plusSign, digit]}

/-- Forty bytes of which the first is an underscore. -/
def placeholder : Language UInt8 :=
  {block | block.length = 40 ∧ block.head? = some underscore}

/-- The blocks that can be read. -/
def readableBlock : Language UInt8 :=
  digitPair + signedDigit + placeholder

/-- A block that can be read is a pair with a value, or a placeholder. -/
theorem mem_readableBlock_iff {block : List UInt8} :
    block ∈ readableBlock ↔
      (∃ first second byte, first ≠ underscore ∧ pairValue first second = some byte ∧
        block = [first, second]) ∨
      ∃ rest, rest.length = 2 * addressLength - 1 ∧ block = underscore :: rest := by
  unfold readableBlock
  rw [Language.mem_add, Language.mem_add]
  constructor
  · rintro ((⟨first, second, hfirst, hsecond, rfl⟩ | ⟨digit, hdigit, rfl⟩) | ⟨hlength, hhead⟩)
    · obtain ⟨byte, hbyte⟩ := exists_pairValue_iff.mpr ⟨.inl hfirst, hsecond⟩
      exact .inl ⟨first, second, byte, hfirst.ne.1, hbyte, rfl⟩
    · obtain ⟨byte, hbyte⟩ := exists_pairValue_iff.mpr ⟨.inr rfl, hdigit⟩
      exact .inl ⟨plusSign, digit, byte, by decide, hbyte, rfl⟩
    · obtain ⟨rest, rfl⟩ := List.head?_eq_some_iff.mp hhead
      exact .inr ⟨rest, Nat.succ.inj hlength, rfl⟩
  · rintro (⟨first, second, byte, -, hbyte, rfl⟩ | ⟨rest, hrest, rfl⟩)
    · obtain ⟨hdigit | rfl, hsecond⟩ := exists_pairValue_iff.mp ⟨byte, hbyte⟩
      · exact .inl (.inl ⟨first, second, hdigit, hsecond, rfl⟩)
      · exact .inl (.inr ⟨second, hsecond, rfl⟩)
    · exact .inr ⟨congrArg Nat.succ hrest, rfl⟩

/-- A block in front of a row of blocks makes a row of blocks. -/
theorem append_mem_kstar {blocks : Language UInt8} {block behind : List UInt8}
    (hblock : block ∈ blocks) (hbehind : behind ∈ blocks∗) : block ++ behind ∈ blocks∗ := by
  obtain ⟨others, rfl, hothers⟩ := Language.mem_kstar.mp hbehind
  exact Language.mem_kstar.mpr ⟨block :: others, rfl, List.forall_mem_cons.mpr ⟨hblock, hothers⟩⟩

/-- The texts that can be read are the rows of blocks. -/
theorem isSome_decodeBlocks_iff {position : Nat} {text : List UInt8} :
    (decodeBlocks position text).isSome = true ↔ text ∈ readableBlock∗ := by
  constructor
  · intro h
    obtain ⟨⟨code, ranges⟩, hread⟩ := Option.isSome_iff_exists.mp h
    refine decodeBlocks_induction ?_ ?_ ?_ hread
    · exact fun _ => Language.nil_mem_kstar _
    · intro _ name rest _ _ hname hrest
      have hblock : underscore :: name ∈ readableBlock :=
        mem_readableBlock_iff.mpr (.inr ⟨name, hname, rfl⟩)
      exact append_mem_kstar hblock hrest
    · intro _ first second byte rest _ _ hfirst hpair hrest
      have hblock : [first, second] ∈ readableBlock :=
        mem_readableBlock_iff.mpr (.inl ⟨first, second, byte, hfirst, hpair, rfl⟩)
      exact append_mem_kstar hblock hrest
  · -- Block after block, wherever the row is read from.
    rw [Language.mem_kstar]
    rintro ⟨blocks, rfl, hblocks⟩
    induction blocks generalizing position with
    | nil =>
      rw [List.flatten_nil, decodeBlocks]
      rfl
    | cons block blocks ih =>
      obtain ⟨hblock, hrest⟩ := List.forall_mem_cons.mp hblocks
      have hread : ∀ next, (decodeBlocks next blocks.flatten).isSome = true := fun next =>
        ih hrest
      rw [List.flatten_cons]
      rcases mem_readableBlock_iff.mp hblock with
        ⟨first, second, byte, hfirst, hpair, rfl⟩ | ⟨rest, hlength, rfl⟩
      · rw [List.cons_append, List.cons_append, decodeBlocks_pair _ hfirst, hpair]
        simpa using hread _
      · have hlong : 2 * addressLength - 1 ≤ (rest ++ blocks.flatten).length := by
          rw [List.length_append]
          omega
        rw [List.cons_append, decodeBlocks_placeholder _ hlong, ← hlength, List.drop_left]
        simpa using hread _

/-! ## Rows of blocks -/

/-- The first byte of a block tells its length. -/
theorem length_eq_of_head?_eq {block other : List UInt8} (hblock : block ∈ readableBlock)
    (hother : other ∈ readableBlock) (h : block.head? = other.head?) :
    block.length = other.length := by
  rcases mem_readableBlock_iff.mp hblock with ⟨first, second, -, hfirst, -, rfl⟩ | ⟨rest, hrest, rfl⟩
  · rcases mem_readableBlock_iff.mp hother with ⟨first', second', -, -, -, rfl⟩ | ⟨rest', -, rfl⟩
    · rfl
    · exact absurd (Option.some.inj h) hfirst
  · rcases mem_readableBlock_iff.mp hother with
      ⟨first', second', -, hfirst', -, rfl⟩ | ⟨rest', hrest', rfl⟩
    · exact absurd (Option.some.inj h).symm hfirst'
    · rw [List.length_cons, List.length_cons, hrest, hrest']

/-- No block is empty. -/
theorem ne_nil_of_mem_readableBlock {block : List UInt8} (h : block ∈ readableBlock) :
    block ≠ [] := by
  rcases mem_readableBlock_iff.mp h with ⟨first, second, -, -, -, rfl⟩ | ⟨rest, -, rfl⟩
  · exact List.cons_ne_nil _ _
  · exact List.cons_ne_nil _ _

/-- A text is a row of blocks in one way only. -/
theorem eq_of_flatten_eq {blocks others : List (List UInt8)}
    (hblocks : ∀ block ∈ blocks, block ∈ readableBlock)
    (hothers : ∀ block ∈ others, block ∈ readableBlock)
    (h : blocks.flatten = others.flatten) : blocks = others := by
  induction blocks generalizing others with
  | nil =>
    cases others with
    | nil => rfl
    | cons other others =>
      have hother := ne_nil_of_mem_readableBlock (hothers other List.mem_cons_self)
      exact absurd (List.append_eq_nil_iff.mp h.symm).1 hother
  | cons block blocks ih =>
    obtain ⟨hblock, hrest⟩ := List.forall_mem_cons.mp hblocks
    cases others with
    | nil =>
      exact absurd (List.append_eq_nil_iff.mp h).1 (ne_nil_of_mem_readableBlock hblock)
    | cons other others =>
      obtain ⟨hother, hrest'⟩ := List.forall_mem_cons.mp hothers
      rw [List.flatten_cons, List.flatten_cons] at h
      -- Both rows have the same first byte, so their first blocks end at the same place.
      have hhead : block.head? = other.head? := by
        have hfirst := congrArg List.head? h
        rwa [List.head?_append_of_ne_nil _ (ne_nil_of_mem_readableBlock hblock),
          List.head?_append_of_ne_nil _ (ne_nil_of_mem_readableBlock hother)] at hfirst
      obtain ⟨rfl, hbehind⟩ := List.append_inj h (length_eq_of_head?_eq hblock hother hhead)
      rw [ih hrest hrest' hbehind]

/-- A plus sign and a digit is neither a pair of digits nor a placeholder. -/
theorem not_mem_of_mem_signedDigit {block : List UInt8} (h : block ∈ signedDigit) :
    block ∉ digitPair + placeholder := by
  obtain ⟨digit, -, rfl⟩ := h
  rintro (⟨first, second, hfirst, -, heq⟩ | ⟨-, hhead⟩)
  · obtain ⟨rfl, -⟩ := List.cons_eq_cons.mp heq
    exact hfirst.ne.2 rfl
  · exact absurd (Option.some.inj hhead) (by decide)

/-- Pairs of digits and placeholders can be read. -/
theorem mem_readableBlock_of_mem {block : List UInt8} (h : block ∈ digitPair + placeholder) :
    block ∈ readableBlock := by
  rcases h with hpair | hplaceholder
  · exact .inl (.inl hpair)
  · exact .inr hplaceholder

/-- A row of blocks that can be read is no row of pairs of digits and placeholders if and only if one
of the blocks is a plus sign and a digit. -/
theorem mem_kstar_and_not_mem_iff {text : List UInt8} :
    text ∈ readableBlock∗ ∧ text ∉ (digitPair + placeholder)∗ ↔
      text ∈ readableBlock∗ * signedDigit * readableBlock∗ := by
  constructor
  · rintro ⟨hreadable, hnot⟩
    obtain ⟨blocks, rfl, hblocks⟩ := Language.mem_kstar.mp hreadable
    obtain ⟨block, hblock, hsigned⟩ : ∃ block ∈ blocks, block ∈ signedDigit := by
      by_contra hnone
      refine hnot (Language.join_mem_kstar fun block hblock => ?_)
      rcases hblocks block hblock with (hpair | hsigned) | hplaceholder
      · exact .inl hpair
      · exact absurd ⟨block, hblock, hsigned⟩ hnone
      · exact .inr hplaceholder
    obtain ⟨front, behind, rfl⟩ := List.append_of_mem hblock
    obtain ⟨hfront, hbehind⟩ := List.forall_mem_append.mp hblocks
    rw [List.flatten_append, List.flatten_cons, ← List.append_assoc]
    exact Language.append_mem_mul
      (Language.append_mem_mul (Language.join_mem_kstar hfront) hsigned)
      (Language.join_mem_kstar (List.forall_mem_cons.mp hbehind).2)
  · rintro ⟨_, ⟨_, hfront, block, hsigned, rfl⟩, _, hbehind, rfl⟩
    obtain ⟨front, rfl, hfronts⟩ := Language.mem_kstar.mp hfront
    obtain ⟨behind, rfl, hbehinds⟩ := Language.mem_kstar.mp hbehind
    have hrow : ∀ other ∈ front ++ block :: behind, other ∈ readableBlock :=
      List.forall_mem_append.mpr
        ⟨hfronts, List.forall_mem_cons.mpr ⟨.inl (.inr hsigned), hbehinds⟩⟩
    have htext : front.flatten ++ block ++ behind.flatten =
        (front ++ block :: behind).flatten := by
      rw [List.flatten_append, List.flatten_cons, List.append_assoc]
    refine ⟨?_, fun hother => ?_⟩
    · show front.flatten ++ block ++ behind.flatten ∈ _
      rw [htext]
      exact Language.join_mem_kstar hrow
    · -- There is no other row of blocks for the text.
      obtain ⟨others, hothers, hmem⟩ := Language.mem_kstar.mp hother
      have hsame : front ++ block :: behind = others :=
        eq_of_flatten_eq hrow (fun other hmember => mem_readableBlock_of_mem (hmem other hmember))
          (htext.symm.trans hothers)
      refine not_mem_of_mem_signedDigit hsigned (hmem block ?_)
      rw [← hsame]
      exact List.mem_append_right _ List.mem_cons_self

/-! ## Unlinked objects -/

/-- An unlinked object is accepted if and only if its text, without a marker in front, is a row of
pairs of hexadecimal digits, of plus signs with one digit, and of placeholders. To be accepted is the
same as to be a row of pairs of digits and placeholders for exactly those texts that do not have a
plus sign with one digit among their blocks. -/
theorem Candidate.isSome_ofBytecode_unlinked_iff (text : List Char) (sourceMap : Option String)
    (generated : List GeneratedSource) (links immutables : List CodeRange) :
    ((ofBytecode ⟨.unlinked text, sourceMap, generated, links⟩ immutables).isSome = true ↔
        utf8 (withoutLowerMarker text) ∈ (digitPair + signedDigit + placeholder)∗) ∧
      (((ofBytecode ⟨.unlinked text, sourceMap, generated, links⟩ immutables).isSome = true ↔
          utf8 (withoutLowerMarker text) ∈ (digitPair + placeholder)∗) ↔
        utf8 (withoutLowerMarker text) ∉ (digitPair + signedDigit + placeholder)∗ * signedDigit *
          (digitPair + signedDigit + placeholder)∗) := by
  have haccepted :
      (ofBytecode ⟨.unlinked text, sourceMap, generated, links⟩ immutables).isSome = true ↔
        utf8 (withoutLowerMarker text) ∈ readableBlock∗ := by
    have hread : (decodeBlocks 0 (utf8 (withoutLowerMarker text))).isSome = true ↔ _ :=
      isSome_decodeBlocks_iff
    rw [← hread]
    unfold ofBytecode decodeUnlinked
    rw [Option.isSome_map]
  refine ⟨haccepted, ?_⟩
  rw [haccepted]
  have hsigned := @mem_kstar_and_not_mem_iff (utf8 (withoutLowerMarker text))
  have hplain : utf8 (withoutLowerMarker text) ∈ (digitPair + placeholder)∗ →
      utf8 (withoutLowerMarker text) ∈ readableBlock∗ := by
    intro h
    obtain ⟨blocks, htext, hblocks⟩ := Language.mem_kstar.mp h
    exact Language.mem_kstar.mpr ⟨blocks, htext, fun block hmember =>
      mem_readableBlock_of_mem (hblocks block hmember)⟩
  constructor
  · intro hsame hrow
    obtain ⟨hreadable, hnot⟩ := hsigned.mpr hrow
    exact hnot (hsame.mp hreadable)
  · intro hnone
    refine ⟨fun hreadable => ?_, hplain⟩
    by_contra hnot
    exact hnone (hsigned.mp ⟨hreadable, hnot⟩)

/-- A plus sign and a digit are kept as unlinked text, and accepted as the code of one byte. -/
theorem Candidate.ofBytecode_signedDigit :
    CodeObject.ofText "+f" = .unlinked ['+', 'f'] ∧
      ofBytecode ⟨.unlinked ['+', 'f'], none, [], []⟩ [] = some ⟨[15], [], [], none⟩ ∧
      utf8 (withoutLowerMarker ['+', 'f']) ∉ (digitPair + placeholder)∗ := by
  refine ⟨by cbv, by cbv, ?_⟩
  have hsigned : [plusSign, 0x66] ∈ signedDigit := ⟨0x66, by decide, rfl⟩
  have hrow := Language.append_mem_mul (Language.append_mem_mul
    (Language.nil_mem_kstar readableBlock) hsigned) (Language.nil_mem_kstar readableBlock)
  exact (mem_kstar_and_not_mem_iff.mpr hrow).2

end CodeAtlas
