import CodeAtlas.Proofs.Instruction
import CodeAtlas.Table
import Mathlib.Logic.ExistsUnique

/-!
# Instructions by number

A code can be walked byte by byte or by jumps: behind an instruction and its data the next one
starts. Where a number of jumps from the first byte leads is said by `Reaches`, without a list and
without a count of data bytes that are left over. The list of `startsFrom` has these places in their
order, as far as they lie in the code (`getElem?_instructionStarts_eq_some_iff`), because what is
left of the list at each place is the list of the bytes from there on (`Reaches.split`).

A walk by jumps that writes down the index of each instruction (`Walk.round?`) ends after as many
rounds as there are instructions, and what is written down is the instruction map
(`Walk.exists_ends`).

So the map numbers the instructions in their order, without a gap. A byte of the code is either the
start of one instruction or data of one push, the last of which may be cut off by the end of the
code. `InstructionMap.numbers_ofCode` says all of this for every code.
-/

namespace CodeAtlas

/-! ## The list from a place on -/

/-- Data bytes in front of the first instruction can be dropped. -/
theorem startsFrom_eq_drop (pc skip : Nat) (code : List UInt8) :
    startsFrom pc skip code = startsFrom (pc + skip) 0 (code.drop skip) := by
  induction code generalizing pc skip with
  | nil => rw [List.drop_nil]; rfl
  | cons byte rest ih =>
    cases skip with
    | zero => rfl
    | succ skip =>
      have hplace : pc + (skip + 1) = pc + 1 + skip := by omega
      rw [List.drop_succ_cons, hplace, ← ih]
      rfl

/-- From an instruction on, it starts, and then what starts behind its data. -/
theorem startsFrom_drop {code : List UInt8} {pc : Nat} {opcode : UInt8}
    (h : code[pc]? = some opcode) :
    startsFrom pc 0 (code.drop pc) = pc :: startsFrom (pc + 1 + immediateSize opcode) 0
      (code.drop (pc + 1 + immediateSize opcode)) := by
  obtain ⟨hlength, hat⟩ := List.getElem?_eq_some_iff.mp h
  calc startsFrom pc 0 (code.drop pc)
      = startsFrom pc 0 (opcode :: code.drop (pc + 1)) := by
        rw [List.drop_eq_getElem_cons hlength, hat]
    _ = pc :: startsFrom (pc + 1) (immediateSize opcode) (code.drop (pc + 1)) := rfl
    _ = _ := by rw [startsFrom_eq_drop (pc + 1), List.drop_drop]

/-- Behind the code nothing starts. -/
theorem startsFrom_drop_of_le {code : List UInt8} {pc : Nat} (h : code.length ≤ pc) :
    startsFrom pc 0 (code.drop pc) = [] := by
  rw [List.drop_eq_nil_of_le h]
  rfl

/-- Not more instructions start than there are bytes. -/
theorem length_startsFrom_le (pc skip : Nat) (code : List UInt8) :
    (startsFrom pc skip code).length ≤ code.length := by
  induction code generalizing pc skip with
  | nil => exact Nat.le_refl 0
  | cons byte rest ih =>
    cases skip with
    | zero => exact Nat.succ_le_succ (ih (pc + 1) (immediateSize byte))
    | succ skip => exact Nat.le_succ_of_le (ih (pc + 1) skip)

/-! ## Places -/

/-- As many jumps as `index` lead from the first byte of a code to `pc`. A jump goes from a byte of
the code over the data behind it, and the last one may lead out of the code. -/
inductive Reaches (code : List UInt8) : Nat → Nat → Prop
  /-- The walk begins with the first byte. -/
  | first : Reaches code 0 0
  /-- It jumps over the data of the instruction at which it is. -/
  | next {index pc : Nat} {opcode : UInt8} (h : Reaches code index pc)
    (hat : code[pc]? = some opcode) : Reaches code (index + 1) (pc + 1 + immediateSize opcode)

namespace Reaches

variable {code : List UInt8} {index pc : Nat}

/-- A number of jumps leads to one place only. -/
theorem unique (h : Reaches code index pc) {pc' : Nat} (h' : Reaches code index pc') :
    pc = pc' := by
  induction h generalizing pc' with
  | first => cases h'; rfl
  | next _ hat ih =>
    cases h' with
    | next h' hat' =>
      have hsame := ih h'
      subst hsame
      have hopcode := Option.some.inj (hat.symm.trans hat')
      rw [hopcode]

/-- At each place, the list of the starts is what starts in front of it, as many as there were
jumps, and what starts from there on. -/
theorem split (h : Reaches code index pc) :
    ∃ front, front.length = index ∧
      instructionStarts code = front ++ startsFrom pc 0 (code.drop pc) := by
  induction h with
  | first => exact ⟨[], rfl, rfl⟩
  | @next index pc opcode _ hat ih =>
    obtain ⟨front, hlength, hstarts⟩ := ih
    refine ⟨front ++ [pc], by rw [List.length_append, hlength]; rfl, ?_⟩
    rw [hstarts, startsFrom_drop hat, List.append_assoc, List.singleton_append]

/-- A place in the code is on the list, at its number. -/
theorem getElem?_of_lt (h : Reaches code index pc) (hlt : pc < code.length) :
    (instructionStarts code)[index]? = some pc := by
  obtain ⟨front, rfl, hstarts⟩ := h.split
  have hat : code[pc]? = some code[pc] := List.getElem?_eq_getElem hlt
  rw [hstarts, startsFrom_drop hat, List.getElem?_append_right (Nat.le_refl _), Nat.sub_self,
    List.getElem?_cons_zero]

/-- A place behind the code is where the list ends. -/
theorem getElem?_of_le (h : Reaches code index pc) (hle : code.length ≤ pc) :
    (instructionStarts code)[index]? = none := by
  obtain ⟨front, rfl, hstarts⟩ := h.split
  rw [hstarts, startsFrom_drop_of_le hle, List.append_nil]
  exact List.getElem?_eq_none (Nat.le_refl _)

end Reaches

/-- Every number up to that of the starts is one of jumps that lead somewhere. -/
theorem exists_reaches {code : List UInt8} {index : Nat}
    (h : index ≤ (instructionStarts code).length) : ∃ pc, Reaches code index pc := by
  induction index with
  | zero => exact ⟨0, .first⟩
  | succ index ih =>
    obtain ⟨pc, hreaches⟩ := ih (Nat.le_of_succ_le h)
    -- Before the end of the list the place is one in the code, from which there is a next jump.
    have hlt : pc < code.length := by
      refine Nat.lt_of_not_le fun hle => ?_
      have hend := List.getElem?_eq_none_iff.mp (hreaches.getElem?_of_le hle)
      omega
    exact ⟨_, hreaches.next (List.getElem?_eq_getElem hlt)⟩

/-- The list of the starts has the places in the code in their order. -/
theorem getElem?_instructionStarts_eq_some_iff {code : List UInt8} {index pc : Nat} :
    (instructionStarts code)[index]? = some pc ↔ Reaches code index pc ∧ pc < code.length := by
  constructor
  · intro hat
    obtain ⟨hlength, -⟩ := List.getElem?_eq_some_iff.mp hat
    obtain ⟨place, hreaches⟩ := exists_reaches (Nat.le_of_lt hlength)
    rcases Nat.lt_or_ge place code.length with hlt | hge
    · have hplace : place = pc := Option.some.inj ((hreaches.getElem?_of_lt hlt).symm.trans hat)
      exact hplace ▸ ⟨hreaches, hlt⟩
    · rw [hreaches.getElem?_of_le hge] at hat
      cases hat
  · rintro ⟨hreaches, hlt⟩
    exact hreaches.getElem?_of_lt hlt

/-- The starts are the places in the code. -/
theorem mem_instructionStarts_iff {code : List UInt8} {pc : Nat} :
    pc ∈ instructionStarts code ↔ ∃ index, Reaches code index pc ∧ pc < code.length := by
  rw [List.mem_iff_getElem?]
  exact exists_congr fun index => getElem?_instructionStarts_eq_some_iff

/-! ## The walk by jumps -/

/-- A walk by jumps on which the index of each instruction is written down. -/
structure Walk where
  /-- Where the walk is. -/
  pc : Nat
  /-- The number of instructions in front. -/
  index : Nat
  /-- The indices written down so far. -/
  indices : Table Nat Nat

namespace Walk

/-- The walk in front of the first instruction. -/
def start : Walk :=
  ⟨0, 0, .empty⟩

/-- The walk behind the instruction with an opcode. -/
def past (walk : Walk) (opcode : UInt8) : Walk :=
  ⟨walk.pc + 1 + immediateSize opcode, walk.index + 1, walk.indices.insert walk.pc walk.index⟩

/-- The walk after one more instruction, if it is not behind the code. -/
def round? (code : List UInt8) (walk : Walk) : Option Walk :=
  code[walk.pc]?.map walk.past

/-- A walk ends with another one after a number of rounds. -/
inductive Ends (code : List UInt8) : Nat → Walk → Walk → Prop
  /-- No round is left. -/
  | here {walk : Walk} (h : walk.round? code = none) : Ends code 0 walk walk
  /-- There is a round, and then the walk ends. -/
  | round {rounds : Nat} {walk next last : Walk} (h : walk.round? code = some next)
    (hends : Ends code rounds next last) : Ends code (rounds + 1) walk last

/-- A walk from any place ends after a round for each instruction from there on, and then the
indices of these are written down beside those that were before. -/
theorem exists_ends (code : List UInt8) (walk : Walk) :
    ∃ last, Ends code (startsFrom walk.pc 0 (code.drop walk.pc)).length walk last ∧
      ∀ pc, last.indices.get? pc =
        (((startsFrom walk.pc 0 (code.drop walk.pc)).idxOf? pc).map (walk.index + ·)).or
          (walk.indices.get? pc) := by
  -- By induction on the bytes that are left: a round takes the first start off the list of those
  -- from the place on, and the rounds behind it write down later starts only.
  induction hleft : code.length - walk.pc using Nat.strongRecOn generalizing walk with
  | ind left ih =>
    cases hat : code[walk.pc]? with
    | none =>
      have hnothing := startsFrom_drop_of_le (List.getElem?_eq_none_iff.mp hat)
      have hround : walk.round? code = none := by unfold round?; rw [hat]; rfl
      rw [hnothing]
      exact ⟨walk, .here hround, fun pc => rfl⟩
    | some opcode =>
      obtain ⟨hlength, -⟩ := List.getElem?_eq_some_iff.mp hat
      have hround : walk.round? code = some (walk.past opcode) := by unfold round?; rw [hat]; rfl
      have hcloser : code.length - (walk.pc + 1 + immediateSize opcode) < left := by omega
      obtain ⟨last, hends, hindices⟩ := ih _ hcloser (walk.past opcode) rfl
      rw [startsFrom_drop hat]
      refine ⟨last, .round hround hends, fun pc => ?_⟩
      have hwritten : (walk.past opcode).indices.get? pc =
          if pc = walk.pc then some walk.index else walk.indices.get? pc :=
        Table.get?_insert _ _ _ _
      rw [hindices pc, List.idxOf?_cons, hwritten]
      show (((startsFrom (walk.pc + 1 + immediateSize opcode) 0 _).idxOf? pc).map
        (walk.index + 1 + ·)).or _ = _
      by_cases hhere : pc = walk.pc
      · -- This round's index is still there at the end.
        subst hhere
        rw [idxOf?_startsFrom_of_lt _ (by omega), if_pos rfl, if_pos (beq_self_eq_true _)]
        rfl
      · have hother : ¬ (walk.pc == pc) = true := fun heq => hhere (beq_iff_eq.mp heq).symm
        rw [if_neg hhere, if_neg hother, Option.map_map]
        congr 2
        funext place
        show walk.index + 1 + place = walk.index + (place + 1)
        omega

end Walk

/-! ## Data -/

/-- A byte is data of the push that starts at `start`. -/
def IsDataOf (code : List UInt8) (start pc : Nat) : Prop :=
  ∃ index opcode, Reaches code index start ∧ code[start]? = some opcode ∧
    (0x60 ≤ opcode ∧ opcode ≤ 0x7f) ∧ start < pc ∧ pc ≤ start + immediateSize opcode

/-- Only a push has data. -/
theorem isPush_of_immediateSize_pos {opcode : UInt8} (h : 0 < immediateSize opcode) :
    0x60 ≤ opcode ∧ opcode ≤ 0x7f := by
  unfold immediateSize at h
  split at h
  · assumption
  · cases h

/-- What lies in the data of a push is data of the push at a place. -/
theorem inPushData_iff {code : List UInt8} {pc : Nat} :
    InPushData code pc ↔ ∃ start, IsDataOf code start pc := by
  constructor
  · rintro ⟨start, opcode, hstart, hat, hless, hin⟩
    obtain ⟨index, hreaches, -⟩ := mem_instructionStarts_iff.mp hstart
    have hdata : 0 < immediateSize opcode := by omega
    exact ⟨start, index, opcode, hreaches, hat, isPush_of_immediateSize_pos hdata, hless, hin⟩
  · rintro ⟨start, index, opcode, hreaches, hat, -, hless, hin⟩
    obtain ⟨hlength, -⟩ := List.getElem?_eq_some_iff.mp hat
    have hstart : start ∈ instructionStarts code :=
      mem_instructionStarts_iff.mpr ⟨index, hreaches, hlength⟩
    exact ⟨start, opcode, hstart, hat, hless, hin⟩

/-- Of two pushes that have a byte as data, neither starts in front of the other. -/
theorem IsDataOf.le {code : List UInt8} {start start' pc : Nat} (h : IsDataOf code start pc)
    (h' : IsDataOf code start' pc) : start' ≤ start := by
  obtain ⟨index, opcode, hreaches, hat, -, -, hin⟩ := h
  obtain ⟨index', opcode', hreaches', hat', -, hless', -⟩ := h'
  obtain ⟨hlength, -⟩ := List.getElem?_eq_some_iff.mp hat
  obtain ⟨hlength', -⟩ := List.getElem?_eq_some_iff.mp hat'
  have hstart : start ∈ startsFrom 0 0 code :=
    mem_instructionStarts_iff.mpr ⟨index, hreaches, hlength⟩
  have hstart' : start' ∈ startsFrom 0 0 code :=
    mem_instructionStarts_iff.mpr ⟨index', hreaches', hlength'⟩
  refine Nat.le_of_not_lt fun hbefore => ?_
  -- The second push would start in the data of the first.
  exact start_not_in_data hstart hat hbefore (by omega) hstart'

/-- A byte is data of one push only. -/
theorem IsDataOf.unique {code : List UInt8} {start start' pc : Nat} (h : IsDataOf code start pc)
    (h' : IsDataOf code start' pc) : start = start' :=
  Nat.le_antisymm (h'.le h) (h.le h')

/-! ## The map -/

namespace InstructionMap

/-- A map that numbers the instructions of a code in their order. -/
structure Numbers (map : InstructionMap) (code : List UInt8) : Prop where
  /-- There are not more instructions than bytes. -/
  size_le : map.size ≤ code.length
  /-- The walk by jumps ends after a round for each instruction, and what is written down then is
  the map. -/
  walked : ∃ last, Walk.Ends code map.size .start last ∧
    ∀ pc, last.indices.get? pc = map.index? pc
  /-- An instruction has an index if this is the number of jumps that lead to it, and only then. -/
  index?_eq_some_iff : ∀ {pc index},
    map.index? pc = some index ↔ Reaches code index pc ∧ pc < code.length
  /-- The numbers of jumps that lead to a place in the code are those below the size. -/
  lt_size_iff : ∀ {index}, index < map.size ↔ ∃ pc, Reaches code index pc ∧ pc < code.length
  /-- The instruction with the greater index starts later, and conversely. -/
  lt_iff_lt : ∀ {pc pc' index index'}, map.index? pc = some index →
    map.index? pc' = some index' → (pc < pc' ↔ index < index')
  /-- Every number below the size is the index of one instruction. -/
  existsUnique_pc : ∀ index < map.size, ∃! pc, map.index? pc = some index
  /-- A byte of the code is the start of one instruction and no data, or it is data of one push and
  has no index. -/
  start_or_data : ∀ pc < code.length,
    ((∃! index, map.index? pc = some index) ∧ ¬∃ start, IsDataOf code start pc) ∨
      (map.index? pc = none ∧ ∃! start, IsDataOf code start pc)
  /-- No index is found behind the code and in the data of pushes, and everywhere else one is. -/
  index?_eq_none_iff : ∀ {pc},
    map.index? pc = none ↔ code.length ≤ pc ∨ ∃ start, IsDataOf code start pc

/-- An instruction is found at the place to which its number of jumps leads. -/
theorem index?_eq_some_iff_reaches {code : List UInt8} {pc index : Nat} :
    (ofCode code).index? pc = some index ↔ Reaches code index pc ∧ pc < code.length :=
  index?_ofCode_eq_some_iff.trans getElem?_instructionStarts_eq_some_iff

/-- The walk by jumps from the first byte on writes down the map. -/
theorem exists_walk (code : List UInt8) :
    ∃ last, Walk.Ends code (ofCode code).size .start last ∧
      ∀ pc, last.indices.get? pc = (ofCode code).index? pc := by
  obtain ⟨last, hends, hindices⟩ := Walk.exists_ends code .start
  refine ⟨last, hends, fun pc => ?_⟩
  calc last.indices.get? pc
      = (((instructionStarts code).idxOf? pc).map (0 + ·)).or none := hindices pc
    _ = (ofCode code).index? pc := by
        rw [Option.or_none, funext Nat.zero_add]
        exact Option.map_id'

/-- Of two instructions that have an index, the one with the greater index starts later. -/
theorem lt_of_index?_lt {code : List UInt8} {pc pc' index index' : Nat}
    (h : (ofCode code).index? pc = some index) (h' : (ofCode code).index? pc' = some index')
    (hless : index < index') : pc < pc' := by
  obtain ⟨hlength, rfl⟩ := List.getElem?_eq_some_iff.mp (index?_ofCode_eq_some_iff.mp h)
  obtain ⟨hlength', rfl⟩ := List.getElem?_eq_some_iff.mp (index?_ofCode_eq_some_iff.mp h')
  exact List.pairwise_iff_getElem.mp (startsFrom_pairwise 0 0 code) index index' hlength hlength'
    hless

/-- An instruction starts in front of another one if it has the smaller index, and only then. -/
theorem lt_iff_index?_lt {code : List UInt8} {pc pc' index index' : Nat}
    (h : (ofCode code).index? pc = some index) (h' : (ofCode code).index? pc' = some index') :
    pc < pc' ↔ index < index' := by
  refine ⟨fun hless => ?_, lt_of_index?_lt h h'⟩
  -- With the same index or a greater one, it would not start in front.
  rcases Nat.lt_trichotomy index index' with hbefore | rfl | hbehind
  · exact hbefore
  · have hsame : pc = pc' :=
      (index?_eq_some_iff_reaches.mp h).1.unique (index?_eq_some_iff_reaches.mp h').1
    exact absurd hless (hsame ▸ Nat.lt_irrefl pc)
  · have hgreater : pc' < pc := lt_of_index?_lt h' h hbehind
    exact absurd hless (Nat.lt_asymm hgreater)

/-- A number of jumps leads to a place in the code if it is below the size, and only then. -/
theorem lt_size_iff_reaches {code : List UInt8} {index : Nat} :
    index < (ofCode code).size ↔ ∃ pc, Reaches code index pc ∧ pc < code.length := by
  calc index < (instructionStarts code).length
      ↔ ∃ pc, (instructionStarts code)[index]? = some pc :=
        ⟨fun hlt => ⟨_, List.getElem?_eq_getElem hlt⟩,
          fun ⟨_, hat⟩ => (List.getElem?_eq_some_iff.mp hat).1⟩
    _ ↔ ∃ pc, Reaches code index pc ∧ pc < code.length :=
        exists_congr fun pc => getElem?_instructionStarts_eq_some_iff

/-- Every number below the size is the index of one instruction. -/
theorem existsUnique_of_lt_size {code : List UInt8} {index : Nat} (h : index < (ofCode code).size) :
    ∃! pc, (ofCode code).index? pc = some index := by
  obtain ⟨pc, hreaches, hlt⟩ := lt_size_iff_reaches.mp h
  refine ⟨pc, index?_eq_some_iff_reaches.mpr ⟨hreaches, hlt⟩, fun pc' h' => ?_⟩
  exact (index?_eq_some_iff_reaches.mp h').1.unique hreaches

/-- Inside a code, what has no index is data of a push. -/
theorem index?_eq_none_iff_of_lt {code : List UInt8} {pc : Nat} (h : pc < code.length) :
    (ofCode code).index? pc = none ↔ ∃ start, IsDataOf code start pc := by
  calc (ofCode code).index? pc = none
      ↔ pc ∉ instructionStarts code := index?_ofCode_eq_none_iff
    _ ↔ InPushData code pc := not_mem_instructionStarts_iff h
    _ ↔ ∃ start, IsDataOf code start pc := inPushData_iff

/-- Behind a code, no index is found. -/
theorem index?_eq_none_of_le {code : List UInt8} {pc : Nat} (h : code.length ≤ pc) :
    (ofCode code).index? pc = none := by
  refine index?_ofCode_eq_none_iff.mpr fun hmem => ?_
  obtain ⟨-, -, hlt⟩ := mem_instructionStarts_iff.mp hmem
  exact absurd hlt (Nat.not_lt.mpr h)

/-- A byte of a code starts one instruction, or it is data of one push. -/
theorem start_or_data_of_lt {code : List UInt8} {pc : Nat} (h : pc < code.length) :
    ((∃! index, (ofCode code).index? pc = some index) ∧ ¬∃ start, IsDataOf code start pc) ∨
      ((ofCode code).index? pc = none ∧ ∃! start, IsDataOf code start pc) := by
  have hnone := index?_eq_none_iff_of_lt h
  cases hfound : (ofCode code).index? pc with
  | some index =>
    refine .inl ⟨⟨index, rfl, fun index' h' => (Option.some.inj h').symm⟩, fun hdata => ?_⟩
    rw [hnone.mpr hdata] at hfound
    cases hfound
  | none =>
    obtain ⟨start, hdata⟩ := hnone.mp hfound
    exact .inr ⟨rfl, start, hdata, fun start' hdata' => hdata'.unique hdata⟩

/-- The map of a code numbers its instructions. -/
theorem numbers_ofCode (code : List UInt8) : (ofCode code).Numbers code where
  size_le := length_startsFrom_le 0 0 code
  walked := exists_walk code
  index?_eq_some_iff := index?_eq_some_iff_reaches
  lt_size_iff := lt_size_iff_reaches
  lt_iff_lt := lt_iff_index?_lt
  existsUnique_pc _ hless := existsUnique_of_lt_size hless
  start_or_data _ hlt := start_or_data_of_lt hlt
  index?_eq_none_iff {pc} := by
    rcases Nat.lt_or_ge pc code.length with hlt | hge
    · rw [index?_eq_none_iff_of_lt hlt, or_iff_right (Nat.not_le.mpr hlt)]
    · exact iff_of_true (index?_eq_none_of_le hge) (.inl hge)

/-- The data of a push may look like pushes, and the last push may be cut off. -/
example : (ofCode [0x61, 0x7f, 0x60, 0x01, 0x62, 0x5b]).starts = [0, 3, 4] := rfl

end InstructionMap

end CodeAtlas
