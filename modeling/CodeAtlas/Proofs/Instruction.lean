import CodeAtlas.Instruction

/-!
# The walk over a code

Instructions start at ascending positions inside the code (`startsFrom_pairwise`,
`mem_startsFrom_bounds`), and a position at which none starts lies in the data of a push in front of
it (`not_mem_instructionStarts_iff`). So `InstructionMap.index?` numbers the starts in order.

The walk looks at no byte but the opcodes. Two codes with the same opcodes wherever an instruction
of the first starts have the same instructions, as far as they agree there
(`index?_eq_of_same_opcodes`).
-/

namespace CodeAtlas

/-! ## Positions -/

/-- Instructions start behind the data in front of them and before the end of the bytes. -/
theorem mem_startsFrom_bounds {pc skip start : Nat} {code : List UInt8}
    (h : start ∈ startsFrom pc skip code) : pc + skip ≤ start ∧ start < pc + code.length := by
  induction code generalizing pc skip with
  | nil => cases h
  | cons byte rest ih =>
    rw [List.length_cons]
    cases skip with
    | succ skip =>
      obtain ⟨hlow, hhigh⟩ := ih h
      omega
    | zero =>
      rcases List.mem_cons.mp h with rfl | hrest
      · omega
      · obtain ⟨hlow, hhigh⟩ := ih hrest
        omega

/-- Instructions start at ascending positions. -/
theorem startsFrom_pairwise (pc skip : Nat) (code : List UInt8) :
    (startsFrom pc skip code).Pairwise (· < ·) := by
  induction code generalizing pc skip with
  | nil => exact .nil
  | cons byte rest ih =>
    cases skip with
    | succ skip => exact ih (pc + 1) skip
    | zero =>
      refine .cons (fun start hstart => ?_) (ih (pc + 1) (immediateSize byte))
      have hlow := (mem_startsFrom_bounds hstart).1
      omega

/-- The byte at a position behind the first is a byte of the rest. -/
theorem getElem?_cons_sub {byte : UInt8} {rest : List UInt8} {pc position : Nat}
    (h : pc + 1 ≤ position) : (byte :: rest)[position - pc]? = rest[position - (pc + 1)]? := by
  have hsub : position - pc = position - (pc + 1) + 1 := by omega
  rw [hsub, List.getElem?_cons_succ]

/-- The index of the instruction that starts at a program counter is its place in the order. -/
theorem InstructionMap.index?_ofCode_eq_some_iff {code : List UInt8} {pc place : Nat} :
    (ofCode code).index? pc = some place ↔ (instructionStarts code)[place]? = some pc := by
  have hascending : (instructionStarts code).Pairwise (· < ·) := startsFrom_pairwise 0 0 code
  show (instructionStarts code).idxOf? pc = some place ↔ _
  rw [List.idxOf?_eq_some_iff, List.getElem?_eq_some_iff]
  constructor
  · rintro ⟨hlt, hat, -⟩
    exact ⟨hlt, hat⟩
  · rintro ⟨hlt, hat⟩
    refine ⟨hlt, hat, fun earlier hearlier hsame => ?_⟩
    have hless := List.pairwise_iff_getElem.mp hascending earlier place (by omega) hlt hearlier
    omega

/-- No index is found for a program counter at which no instruction starts. -/
theorem InstructionMap.index?_ofCode_eq_none_iff {code : List UInt8} {pc : Nat} :
    (ofCode code).index? pc = none ↔ pc ∉ instructionStarts code :=
  List.idxOf?_eq_none_iff

/-! ## The data of pushes -/

/-- A program counter lies in the data of a push. -/
def InPushData (code : List UInt8) (pc : Nat) : Prop :=
  ∃ start opcode, start ∈ instructionStarts code ∧ code[start]? = some opcode ∧
    start < pc ∧ pc ≤ start + immediateSize opcode

/-- Every byte belongs to the data in front of the bytes or to an instruction that starts at it or
before it. -/
theorem exists_start_le (pc skip : Nat) (code : List UInt8) {position : Nat} (hlow : pc ≤ position)
    (hhigh : position < pc + code.length) :
    position < pc + skip ∨ ∃ start opcode, start ∈ startsFrom pc skip code ∧
      code[start - pc]? = some opcode ∧ start ≤ position ∧
      position ≤ start + immediateSize opcode := by
  induction code generalizing pc skip with
  | nil =>
    rw [List.length_nil] at hhigh
    omega
  | cons byte rest ih =>
    rw [List.length_cons] at hhigh
    cases skip with
    | succ skip =>
      by_cases hfirst : position = pc
      · exact .inl (by omega)
      rcases ih (pc + 1) skip (by omega) (by omega) with
        hdata | ⟨start, opcode, hstart, hat, hle, hin⟩
      · exact .inl (by omega)
      · have hbound := (mem_startsFrom_bounds hstart).1
        exact .inr ⟨start, opcode, hstart, by rw [getElem?_cons_sub (by omega), hat], hle, hin⟩
    | zero =>
      have hbyte : (byte :: rest)[pc - pc]? = some byte := by simp
      by_cases hfirst : position = pc
      · exact .inr ⟨pc, byte, List.mem_cons_self, hbyte, by omega, by omega⟩
      rcases ih (pc + 1) (immediateSize byte) (by omega) (by omega) with
        hdata | ⟨start, opcode, hstart, hat, hle, hin⟩
      · exact .inr ⟨pc, byte, List.mem_cons_self, hbyte, by omega, by omega⟩
      · have hbound := (mem_startsFrom_bounds hstart).1
        exact .inr ⟨start, opcode, List.mem_cons_of_mem _ hstart,
          by rw [getElem?_cons_sub (by omega), hat], hle, hin⟩

/-- No instruction starts in the data of another. -/
theorem start_not_in_data {pc skip start position : Nat} {opcode : UInt8} {code : List UInt8}
    (hstart : start ∈ startsFrom pc skip code) (hat : code[start - pc]? = some opcode)
    (hless : start < position) (hin : position ≤ start + immediateSize opcode) :
    position ∉ startsFrom pc skip code := by
  induction code generalizing pc skip with
  | nil => cases hstart
  | cons byte rest ih =>
    cases skip with
    | succ skip =>
      have hbound := (mem_startsFrom_bounds hstart).1
      rw [getElem?_cons_sub (by omega)] at hat
      exact ih hstart hat
    | zero =>
      intro hmem
      have hposition : position ∈ startsFrom (pc + 1) (immediateSize byte) rest := by
        have hbound := (mem_startsFrom_bounds hstart).1
        rcases List.mem_cons.mp hmem with hfirst | hbehind
        · omega
        · exact hbehind
      rcases List.mem_cons.mp hstart with hfirst | hbehind
      · -- The rest begins with the data of this instruction.
        subst hfirst
        rw [Nat.sub_self, List.getElem?_cons_zero, Option.some.injEq] at hat
        subst hat
        have hbound := (mem_startsFrom_bounds hposition).1
        omega
      · have hbound := (mem_startsFrom_bounds hbehind).1
        rw [getElem?_cons_sub (by omega)] at hat
        exact ih hbehind hat hposition

/-- Inside a code a program counter at which no instruction starts is one in the data of a push. -/
theorem not_mem_instructionStarts_iff {code : List UInt8} {pc : Nat} (h : pc < code.length) :
    pc ∉ instructionStarts code ↔ InPushData code pc := by
  constructor
  · intro hnot
    rcases exists_start_le 0 0 code (Nat.zero_le pc) (by omega) with
      hdata | ⟨start, opcode, hstart, hat, hle, hin⟩
    · omega
    · have hdiffer : start ≠ pc := fun hsame => hnot (hsame ▸ hstart)
      exact ⟨start, opcode, hstart, hat, by omega, hin⟩
  · rintro ⟨start, opcode, hstart, hat, hless, hin⟩
    exact start_not_in_data hstart hat hless hin

/-! ## Codes with the same opcodes -/

/-- No instruction starts before the first byte. -/
theorem idxOf?_startsFrom_of_lt {pc skip position : Nat} (code : List UInt8)
    (h : position < pc) : (startsFrom pc skip code).idxOf? position = none := by
  refine List.idxOf?_eq_none_iff.mpr fun hmem => ?_
  have hlow := (mem_startsFrom_bounds hmem).1
  omega

/-- The walk over other bytes finds the same instructions up to a limit, if it meets the same
opcodes wherever an instruction starts before the limit. -/
theorem idxOf?_startsFrom_congr {wants finds : List UInt8} {pc skip limit : Nat}
    (hwants : limit ≤ pc + wants.length) (hfinds : limit ≤ pc + finds.length)
    (hsame : ∀ start ∈ startsFrom pc skip wants, start < limit →
      wants[start - pc]? = finds[start - pc]?) {position : Nat} (hposition : position < limit) :
    (startsFrom pc skip wants).idxOf? position = (startsFrom pc skip finds).idxOf? position := by
  induction wants generalizing pc skip finds with
  | nil =>
    rw [List.length_nil] at hwants
    rw [idxOf?_startsFrom_of_lt _ (by omega), idxOf?_startsFrom_of_lt _ (by omega)]
  | cons want wants ih =>
    rcases Nat.lt_or_ge position pc with hbefore | hbehind
    · rw [idxOf?_startsFrom_of_lt _ hbefore, idxOf?_startsFrom_of_lt _ hbefore]
    cases finds with
    | nil =>
      rw [List.length_nil] at hfinds
      omega
    | cons found finds =>
      rw [List.length_cons] at hwants hfinds
      -- What is the same from the first byte on is the same from the second on.
      have hrest : ∀ skip', (∀ start ∈ startsFrom (pc + 1) skip' wants,
          start ∈ startsFrom pc skip (want :: wants)) →
          (startsFrom (pc + 1) skip' wants).idxOf? position =
            (startsFrom (pc + 1) skip' finds).idxOf? position := by
        intro skip' hsub
        refine ih (by omega) (by omega) fun start hstart hlimit => ?_
        have hlow := (mem_startsFrom_bounds hstart).1
        have hat := hsame start (hsub start hstart) hlimit
        rwa [getElem?_cons_sub (by omega), getElem?_cons_sub (by omega)] at hat
      cases skip with
      | succ skip => exact hrest skip (fun start hstart => hstart)
      | zero =>
        have hat := hsame pc List.mem_cons_self (by omega)
        simp only [Nat.sub_self, List.getElem?_cons_zero, Option.some.injEq] at hat
        subst hat
        show (pc :: startsFrom (pc + 1) (immediateSize want) wants).idxOf? position =
          (pc :: startsFrom (pc + 1) (immediateSize want) finds).idxOf? position
        rw [List.idxOf?_cons, List.idxOf?_cons, hrest (immediateSize want)
          (fun start hstart => List.mem_cons_of_mem _ hstart)]

/-- Up to a limit that both reach, two codes have the same instructions if they have the same
opcodes wherever an instruction of the first starts. -/
theorem InstructionMap.index?_eq_of_same_opcodes {code other : List UInt8} {limit : Nat}
    (hcode : limit ≤ code.length) (hother : limit ≤ other.length)
    (hsame : ∀ start ∈ instructionStarts code, start < limit → code[start]? = other[start]?)
    {pc : Nat} (hpc : pc < limit) : (ofCode other).index? pc = (ofCode code).index? pc := by
  refine (idxOf?_startsFrom_congr ?_ ?_ hsame hpc).symm
  · omega
  · omega

end CodeAtlas
