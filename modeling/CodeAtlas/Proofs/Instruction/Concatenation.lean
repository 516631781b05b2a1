import CodeAtlas.Proofs.Instruction.Numbering

/-!
# Instructions of one code behind another

Bytes behind a code do not change where its instructions start. The last instruction may be a push
that is cut off by the end of the code, and then the first of the bytes behind it become data of
this push (`overrun`). From there on the instructions are those of the other bytes on their own,
moved to their places (`instructionStarts_append`). So the indices of the first code stay as they
are, and those of the rest go on from its size (`InstructionMap.index?_append`).
-/

namespace CodeAtlas

/-- The number of data bytes by which the last instruction of a code runs past its end. -/
def overrun (code : List UInt8) : Nat :=
  match (instructionStarts code).getLast? with
  | none => 0
  | some last => last + 1 + immediateSize (code.getD last 0) - code.length

/-- A jump for each instruction leads behind the code. -/
theorem Reaches.length_le {code : List UInt8} {stop : Nat}
    (h : Reaches code (instructionStarts code).length stop) : code.length ≤ stop := by
  refine Nat.le_of_not_lt fun hlt => ?_
  -- There is no start with this number.
  have hnone : (instructionStarts code)[(instructionStarts code).length]? = none :=
    List.getElem?_eq_none (Nat.le_refl _)
  rw [h.getElem?_of_lt hlt] at hnone
  cases hnone

/-- It leads as far behind the code as the last instruction runs past its end. -/
theorem Reaches.overrun_eq {code : List UInt8} {stop : Nat}
    (h : Reaches code (instructionStarts code).length stop) :
    overrun code = stop - code.length := by
  unfold overrun
  rw [List.getLast?_eq_getElem?]
  cases hcount : (instructionStarts code).length with
  | zero =>
    rw [hcount] at h
    obtain rfl : stop = 0 := h.unique .first
    rw [List.length_eq_zero_iff.mp hcount]
    exact (Nat.zero_sub _).symm
  | succ count =>
    rw [hcount] at h
    cases h with
    | @next _ last opcode hreaches hat =>
      obtain ⟨hlast, -⟩ := List.getElem?_eq_some_iff.mp hat
      have hopcode : code.getD last 0 = opcode := by
        rw [List.getD_eq_getElem?_getD, hat, Option.getD_some]
      rw [Nat.add_sub_cancel, hreaches.getElem?_of_lt hlast, ← hopcode]

/-- A jump for each instruction leads to the end of the code and over the data that runs past it. -/
theorem reaches_overrun (code : List UInt8) :
    Reaches code (instructionStarts code).length (code.length + overrun code) := by
  obtain ⟨stop, hstop⟩ := exists_reaches (Nat.le_refl (instructionStarts code).length)
  rw [hstop.overrun_eq, Nat.add_sub_cancel' hstop.length_le]
  exact hstop

/-- Bytes behind a code do not change where jumps lead. -/
theorem Reaches.append {code : List UInt8} {index pc : Nat} (h : Reaches code index pc)
    (behind : List UInt8) : Reaches (code ++ behind) index pc := by
  induction h with
  | first => exact .first
  | next _ hat ih =>
    obtain ⟨hlength, -⟩ := List.getElem?_eq_some_iff.mp hat
    exact ih.next ((List.getElem?_append_left hlength).trans hat)

/-- The starts of a code are the first ones of the code with other bytes behind it. -/
theorem instructionStarts_prefix (code behind : List UInt8) :
    instructionStarts code <+: instructionStarts (code ++ behind) := by
  refine List.prefix_iff_getElem?.mpr fun index hindex => ?_
  have hat : (instructionStarts code)[index]? = some (instructionStarts code)[index] :=
    List.getElem?_eq_getElem hindex
  obtain ⟨hreaches, hlt⟩ := getElem?_instructionStarts_eq_some_iff.mp hat
  refine (hreaches.append behind).getElem?_of_lt ?_
  rw [List.length_append]
  omega

/-- The list for bytes at a later place has the same starts, moved by the distance. -/
theorem startsFrom_add (distance pc skip : Nat) (code : List UInt8) :
    startsFrom (distance + pc) skip code = (startsFrom pc skip code).map (distance + ·) := by
  induction code generalizing pc skip with
  | nil => rfl
  | cons byte rest ih =>
    cases skip with
    | zero => exact congrArg ((distance + pc) :: ·) (ih (pc + 1) (immediateSize byte))
    | succ skip => exact ih (pc + 1) skip

/-- The starts of two codes one behind the other are those of the first and then, moved to their
places, those of the second without the bytes that become data of the first. -/
theorem instructionStarts_append (front behind : List UInt8) :
    instructionStarts (front ++ behind) = instructionStarts front ++
      (instructionStarts (behind.drop (overrun front))).map (front.length + overrun front + ·) := by
  obtain ⟨tail, htail⟩ := instructionStarts_prefix front behind
  obtain ⟨early, hearly, hsplit⟩ := ((reaches_overrun front).append behind).split
  -- Both cuts of the list are behind as many starts as the first code has.
  have hrest := (List.append_inj (htail.trans hsplit) hearly.symm).2
  rw [← htail, hrest]
  congr 1
  calc startsFrom (front.length + overrun front) 0
        ((front ++ behind).drop (front.length + overrun front))
      = startsFrom (front.length + overrun front + 0) 0 (behind.drop (overrun front)) := by
        rw [List.drop_length_add_append, Nat.add_zero]
    _ = _ := startsFrom_add _ 0 0 _

namespace InstructionMap

/-- An instruction of two codes one behind the other is one of the first code, or one of the rest of
the second that is counted on from the size of the first. -/
theorem index?_ofCode_append (front behind : List UInt8) (pc : Nat) :
    (ofCode (front ++ behind)).index? pc = ((ofCode front).index? pc).or
      (if front.length + overrun front ≤ pc then
        ((ofCode (behind.drop (overrun front))).index? (pc - (front.length + overrun front))).map
          ((ofCode front).size + ·)
      else none) := by
  -- Moving the starts of the rest is the same as moving the place that is looked up.
  have hmoved : ((instructionStarts (behind.drop (overrun front))).map
        (front.length + overrun front + ·)).findIdx? (· == pc) =
      if front.length + overrun front ≤ pc then
        (instructionStarts (behind.drop (overrun front))).findIdx?
          (· == pc - (front.length + overrun front))
      else none := by
    rw [List.findIdx?_map]
    split
    · congr 1
      funext place
      rw [Function.comp_apply, Bool.eq_iff_iff, beq_iff_eq, beq_iff_eq]
      omega
    · refine List.findIdx?_eq_none_iff.mpr fun place _ => ?_
      rw [Function.comp_apply, beq_eq_false_iff_ne]
      omega
  calc (instructionStarts (front ++ behind)).findIdx? (· == pc)
      = ((instructionStarts front).findIdx? (· == pc)).or
          ((((instructionStarts (behind.drop (overrun front))).map
            (front.length + overrun front + ·)).findIdx? (· == pc)).map
              (· + (instructionStarts front).length)) := by
        rw [instructionStarts_append, List.findIdx?_append]
    _ = _ := by
        rw [hmoved]
        show _ = ((instructionStarts front).findIdx? (· == pc)).or _
        congr 1
        split
        · exact Option.map_congr fun place _ => Nat.add_comm place _
        · rfl

/-- What two codes one behind the other have for instructions.

* At the bytes of the first code it is what the first code has.
* The data bytes by which the last instruction of the first code runs past its end are taken from
  the second code, and no instruction starts there.
* Behind them it is what the second code has without these bytes, counted on from the size of the
  first code.

So bytes that are put behind a code never change the index of one of its instructions. -/
theorem index?_append (front behind : List UInt8) :
    (∀ pc < front.length, (ofCode (front ++ behind)).index? pc = (ofCode front).index? pc) ∧
    (∀ place < overrun front, (ofCode (front ++ behind)).index? (front.length + place) = none) ∧
    (∀ place, overrun front ≤ place → (ofCode (front ++ behind)).index? (front.length + place) =
      ((ofCode (behind.drop (overrun front))).index? (place - overrun front)).map
        ((ofCode front).size + ·)) ∧
    ∀ pc index, (ofCode front).index? pc = some index →
      (ofCode (front ++ behind)).index? pc = some index := by
  have hend : ∀ place, (ofCode front).index? (front.length + place) = none := fun place =>
    index?_eq_none_of_le (Nat.le_add_right _ place)
  refine ⟨fun pc hpc => ?_, fun place hplace => ?_, fun place hplace => ?_,
    fun pc index hindex => ?_⟩
  · rw [index?_ofCode_append, if_neg (by omega), Option.or_none]
  · rw [index?_ofCode_append, hend, if_neg (by omega), Option.or_none]
  · have hrest : front.length + place - (front.length + overrun front) = place - overrun front := by
      omega
    rw [index?_ofCode_append, hend, if_pos (by omega), Option.none_or, hrest]
  · rw [index?_ofCode_append, hindex, Option.some_or]

/-- A push of two bytes that has only one of them takes the other from the code behind it. The byte
after that starts an instruction, with the index behind those of the first code. -/
theorem index?_append_of_cut :
    overrun [0x01, 0x61, 0x5b] = 1 ∧
      (ofCode ([0x01, 0x61, 0x5b] ++ [0x5b, 0x60])).index? 1 = some 1 ∧
      (ofCode ([0x01, 0x61, 0x5b] ++ [0x5b, 0x60])).index? 3 = none ∧
      (ofCode ([0x01, 0x61, 0x5b] ++ [0x5b, 0x60])).index? 4 = some 2 := by
  obtain ⟨-, hnone, hrest, hkept⟩ := index?_append [0x01, 0x61, 0x5b] [0x5b, 0x60]
  have hoverrun : overrun [0x01, 0x61, 0x5b] = 1 := rfl
  exact ⟨hoverrun, hkept 1 1 rfl, hnone 0 (by decide), hrest 1 (by decide)⟩

end InstructionMap

end CodeAtlas
