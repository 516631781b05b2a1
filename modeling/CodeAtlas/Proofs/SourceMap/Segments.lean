import CodeAtlas.Proofs.SourceMap.Faults

/-!
# A source map segment by segment

A written source map is read from the left, and all that is kept from one segment to the next is the
last entry. So a text can be cut between any two segments. What is in front of the cut is read as
the front of the map, and what is behind it is read in a way that depends on nothing but the last
entry in front (`readSegments_append_of_ok`); only the numbers of the segments are shifted
(`readSegments_shift`).

The first segment with a violation ends the text. `FailsAt` says what the segment and those in front
of it are like, and there is no other way to fail (`SourceMap.failsAt_of_decode`,
`SourceMap.decode_of_failsAt`). `SourceMap.decode_segmentwise` puts both together.
-/

namespace CodeAtlas

open Text

/-! ## Segments behind each other -/

/-- The entry behind which the rest is read: the last of the entries, or the one before them. -/
def lastEntry (before : Option Entry) (entries : List Entry) : Option Entry :=
  entries.getLast?.or before

/-- Behind a first entry it is the last entry of the rest, or the first. -/
theorem lastEntry_cons (before : Option Entry) (e : Entry) (entries : List Entry) :
    lastEntry before (e :: entries) = lastEntry (some e) entries := by
  unfold lastEntry
  rw [List.getLast?_cons, Option.or_some, Option.some_or]

section

variable {before : Option Entry} {index : Nat} {first second segments : List (List Char)}
  {entries : List Entry} {malformed : Malformed}

/-- Segments behind others that are read are read behind the last entry of these. -/
theorem readSegments_append_of_ok (h : readSegments before index first = .ok entries) :
    readSegments before index (first ++ second) =
      (readSegments (lastEntry before entries) (index + first.length) second).map
        (entries ++ ·) := by
  -- The entry in front varies: the rest of the first segments is read behind the entry before it.
  induction first generalizing before index entries with
  | nil =>
    cases h
    rw [List.nil_append, List.length_nil, Nat.add_zero]
    show _ = (readSegments before index second).map ([] ++ ·)
    cases readSegments before index second <;> rfl
  | cons segment rest ih =>
    obtain ⟨e, more, he, hmore, rfl⟩ := readSegments_cons_eq_ok_iff.mp h
    have hlength : index + (segment :: rest).length = index + 1 + rest.length := by
      rw [List.length_cons]
      omega
    rw [List.cons_append, readSegments, he, lastEntry_cons, hlength]
    dsimp only
    rw [ih hmore]
    cases readSegments (lastEntry (some e) more) (index + 1 + rest.length) second <;> rfl

/-- The number of the first segment is only used to say where a fault is. -/
theorem readSegments_shift (shift : Nat) :
    readSegments before (shift + index) segments =
      (readSegments before index segments).mapError fun malformed =>
        ⟨shift + malformed.segment, malformed.fault⟩ := by
  induction segments generalizing before index with
  | nil => rfl
  | cons segment rest ih =>
    rw [readSegments, readSegments]
    cases readSegment before segment with
    | error fault => rfl
    | ok e =>
      dsimp only
      rw [Nat.add_assoc, ih]
      cases readSegments (some e) (index + 1) rest <;> rfl

/-- The front of segments that are read is read as the front of their entries. -/
theorem readSegments_take (h : readSegments before index segments = .ok entries) (count : Nat) :
    readSegments before index (segments.take count) = .ok (entries.take count) := by
  induction segments generalizing before index entries count with
  | nil =>
    cases h
    rw [List.take_nil, List.take_nil]
    rfl
  | cons segment rest ih =>
    obtain ⟨e, more, he, hmore, rfl⟩ := readSegments_cons_eq_ok_iff.mp h
    cases count with
    | zero => rfl
    | succ count =>
      rw [List.take_succ_cons, List.take_succ_cons, readSegments_cons_eq_ok_iff]
      exact ⟨e, more.take count, he, ih hmore count, rfl⟩

/-- Segments are refused for one of them, and those in front of it are read. -/
theorem exists_of_readSegments_eq_error
    (h : readSegments before index segments = .error malformed) :
    ∃ front segment rest entries, segments = front ++ segment :: rest ∧
      readSegments before index front = .ok entries ∧
      readSegment (lastEntry before entries) segment = .error malformed.fault ∧
      malformed.segment = index + front.length := by
  induction segments generalizing before index with
  | nil => cases h
  | cons segment rest ih =>
    rcases readSegments_cons_eq_error_iff.mp h with ⟨fault, hsegment, rfl⟩ | ⟨e, hsegment, hrest⟩
    · exact ⟨[], segment, rest, [], rfl, rfl, hsegment, rfl⟩
    · obtain ⟨front, other, behind, entries, rfl, hfront, hother, hplace⟩ := ih hrest
      refine ⟨segment :: front, other, behind, e :: entries, rfl, ?_, ?_, ?_⟩
      · exact readSegments_cons_eq_ok_iff.mpr ⟨e, entries, hsegment, hfront, rfl⟩
      · rw [lastEntry_cons]
        exact hother
      · rw [hplace, List.length_cons]
        omega

end

/-- Each of the segments that are read obeys the rules. -/
theorem obeys_of_readSegments {segments : List (List Char)} {entries : List Entry}
    (h : readSegments none 0 segments = .ok entries) {index : Nat} {segment : List Char}
    (hsegment : segments[index]? = some segment) (fault : SegmentFault) :
    ¬ Violates index segment fault := by
  obtain ⟨hlength, hsteps⟩ := readSegments_steps h
  have hlt : index < entries.length := by
    rw [hlength]
    exact (List.getElem?_eq_some_iff.mp hsegment).1
  have hread := hsteps index entries[index] (List.getElem?_eq_getElem hlt)
  rw [List.getD_eq_getElem?_getD, hsegment, Option.getD_some] at hread
  -- There is an entry in front of every segment but the first one.
  have hfirst : entryBefore none entries index = none ↔ index = 0 := by
    cases index with
    | zero => exact iff_of_true rfl rfl
    | succ index =>
      have hbefore : entries[index]? = some entries[index] := List.getElem?_eq_getElem (by omega)
      refine iff_of_false ?_ (Nat.succ_ne_zero index)
      show ¬ entries[index]? = none
      rw [hbefore]
      exact nofun
  exact (exists_readSegment_iff_obeys hfirst).mp ⟨_, hread⟩ fault

namespace SourceMap

/-! ## Texts -/

/-- The segments of a written source map. The empty text, which stands for the map without entries,
has none. -/
def segments (text : String) : List (List Char) :=
  if text = "" then [] else segmentsOf text

/-- The text of segments. -/
def textOf (segments : List (List Char)) : String :=
  String.ofList (joined ';' segments)

/-- The entries of a map are what its segments are read as, one behind the other. -/
theorem decode_eq (text : String) :
    decode text = (readSegments none 0 (segments text)).map SourceMap.mk := by
  unfold segments
  by_cases h : text = ""
  · rw [if_pos h, h]
    rfl
  · rw [if_neg h]
    exact decode_of_ne_empty h

/-- A text is read as a map if and only if its segments are read as the entries. -/
theorem decode_ok_iff {text : String} {m : SourceMap} :
    decode text = .ok m ↔ readSegments none 0 (segments text) = .ok m.entries := by
  rw [decode_eq]
  obtain ⟨entries⟩ := m
  cases readSegments none 0 (segments text) with
  | error malformed => exact iff_of_false nofun nofun
  | ok entries' =>
    show Except.ok _ = _ ↔ _
    rw [Except.ok.injEq, Except.ok.injEq, SourceMap.mk.injEq]

/-- A text is refused if and only if its segments are, for the same reason. -/
theorem decode_error_iff {text : String} {malformed : Malformed} :
    decode text = .error malformed ↔ readSegments none 0 (segments text) = .error malformed := by
  rw [decode_eq]
  cases readSegments none 0 (segments text) with
  | error malformed' =>
    show Except.error _ = _ ↔ _
    rw [Except.error.injEq, Except.error.injEq]
  | ok entries => exact iff_of_false nofun nofun

/-- No segment has a semicolon. -/
theorem semicolon_not_mem {text : String} {segment : List Char} (h : segment ∈ segments text) :
    ';' ∉ segment := by
  unfold segments at h
  split at h
  · cases h
  · exact not_mem_of_mem_fields h

/-- Segments can be put together to a text, unless there is only the empty one. -/
theorem segments_textOf {parts : List (List Char)} (hparts : ∀ part ∈ parts, ';' ∉ part)
    (hne : parts ≠ [[]]) : segments (textOf parts) = parts := by
  have htext : (textOf parts).toList = joined ';' parts := String.toList_ofList
  by_cases hnil : parts = []
  · rw [hnil]
    rfl
  · have hfields : segmentsOf (textOf parts) = parts := by
      unfold segmentsOf
      rw [htext, fields_joined hnil hparts]
    -- The empty text would be one empty segment.
    unfold segments
    rw [if_neg, hfields]
    intro hempty
    rw [hempty] at hfields
    exact hne hfields.symm

/-- Segments that are read one behind the other are read as one text. -/
theorem decode_textOf {parts : List (List Char)} {entries : List Entry}
    (hparts : ∀ part ∈ parts, ';' ∉ part) (h : readSegments none 0 parts = .ok entries) :
    decode (textOf parts) = .ok ⟨entries⟩ := by
  have hne : parts ≠ [[]] := by
    rintro rfl
    cases h
  rw [decode_ok_iff, segments_textOf hparts hne]
  exact h

/-- The segments of a text with something behind it are its own and then those behind it. The text
behind it has a segment even if it is empty. -/
theorem segments_append {text : String} (h : text ≠ "") (behind : String) :
    segments (text ++ ";" ++ behind) = segments text ++ segmentsOf behind := by
  have htext : (text ++ ";" ++ behind).toList = text.toList ++ ';' :: behind.toList := by
    rw [String.toList_append, String.toList_append, List.append_assoc]
    rfl
  have hne : text ++ ";" ++ behind ≠ "" := by
    intro hempty
    rw [hempty] at htext
    exact List.append_ne_nil_of_right_ne_nil _ (List.cons_ne_nil _ _) htext.symm
  unfold segments segmentsOf
  rw [if_neg h, if_neg hne, htext, fields_append]

/-! ## The first segment at fault -/

/-- A text fails at a segment: those in front of it make a text that is read and obey the rules, and
the segment does not. -/
structure FailsAt (text : String) (index : Nat) (fault : SegmentFault) : Prop where
  /-- What is in front of the segment is read. -/
  front : ∃ m, decode (textOf ((segments text).take index)) = .ok m
  /-- No segment in front of it violates a rule. -/
  obeys : ∀ i < index, ∀ segment, (segments text)[i]? = some segment →
    ∀ other, ¬ Violates i segment other
  /-- The fault is the first violation of the segment. -/
  isFirst : ∃ segment, (segments text)[index]? = some segment ∧
    IsFirstViolation index segment fault

/-- A text that is refused fails at the segment that is named, with the fault that is given. -/
theorem failsAt_of_decode {text : String} {index : Nat} {fault : SegmentFault}
    (h : decode text = .error ⟨index, fault⟩) : FailsAt text index fault := by
  obtain ⟨front, segment, rest, entries, hsegments, hfront, hsegment, hindex⟩ :=
    exists_of_readSegments_eq_error (decode_error_iff.mp h)
  have hlength : index = front.length := by
    rw [Nat.zero_add] at hindex
    exact hindex
  have htake : (segments text).take index = front := by
    rw [hsegments, hlength, List.take_left]
  refine ⟨⟨⟨entries⟩, ?_⟩, fun i hi other hother fault' => ?_, segment, ?_, ?_⟩
  · have hparts : ∀ part ∈ front, part ∈ segments text := fun part hpart =>
      hsegments ▸ List.mem_append_left _ hpart
    rw [htake]
    exact decode_textOf (fun part hpart => semicolon_not_mem (hparts part hpart)) hfront
  · refine obeys_of_readSegments hfront ?_ fault'
    rw [← htake, List.getElem?_take_of_lt hi]
    exact hother
  · rw [hsegments, hlength, List.getElem?_append_right (Nat.le_refl _), Nat.sub_self]
    rfl
  · -- There is a last entry in front unless the segment is the first one.
    have hfirst : lastEntry none entries = none ↔ index = 0 := by
      rw [lastEntry, Option.or_none, List.getLast?_eq_none_iff, hlength,
        ← (readSegments_steps hfront).1, List.length_eq_zero_iff]
    exact (readSegment_eq_error_iff hfirst).mp hsegment

/-- A text that fails at a segment is refused there. -/
theorem decode_of_failsAt {text : String} {index : Nat} {fault : SegmentFault}
    (h : FailsAt text index fault) : decode text = .error ⟨index, fault⟩ := by
  obtain ⟨segment, hsegment, hfirst⟩ := h.isFirst
  cases hdecode : decode text with
  | ok m =>
    have hobeys := obeys_of_readSegments (decode_ok_iff.mp hdecode) hsegment
    exact absurd hfirst.violates (hobeys fault)
  | error malformed =>
    -- There cannot be two segments that fail, as each is behind segments that obey the rules.
    obtain ⟨index', fault'⟩ := malformed
    have h' := failsAt_of_decode hdecode
    obtain ⟨segment', hsegment', hfirst'⟩ := h'.isFirst
    rcases Nat.lt_trichotomy index index' with hlt | rfl | hgt
    · exact absurd hfirst.violates (h'.obeys index hlt segment hsegment fault)
    · cases hsegment.symm.trans hsegment'
      rw [hfirst.unique hfirst']
    · exact absurd hfirst'.violates (h.obeys index' hgt segment' hsegment' fault')

/-- A text that begins with the same segments, up to the one at fault, fails there as well. -/
theorem FailsAt.congr {text other : String} {index : Nat} {fault : SegmentFault}
    (h : FailsAt text index fault)
    (hsame : (segments other).take (index + 1) = (segments text).take (index + 1)) :
    FailsAt other index fault := by
  have hget : ∀ i < index + 1, (segments other)[i]? = (segments text)[i]? := by
    intro i hi
    rw [← List.getElem?_take_of_lt hi, hsame, List.getElem?_take_of_lt hi]
  have htake : (segments other).take index = (segments text).take index := by
    have hcut := congrArg (List.take index) hsame
    rw [List.take_take, List.take_take, Nat.min_eq_left (Nat.le_succ index)] at hcut
    exact hcut
  obtain ⟨segment, hsegment, hfirst⟩ := h.isFirst
  refine ⟨htake ▸ h.front, fun i hi part hpart => ?_, segment, ?_, hfirst⟩
  · rw [hget i (Nat.lt_succ_of_lt hi)] at hpart
    exact h.obeys i hi part hpart
  · rw [hget index (Nat.lt_succ_self index)]
    exact hsegment

/-! ## Cuts -/

/-- The front of the segments of a text that is read makes a text that is read as the front of the
map. -/
theorem decode_take {text : String} {m : SourceMap} (h : decode text = .ok m) (count : Nat) :
    decode (textOf ((segments text).take count)) = .ok ⟨m.entries.take count⟩ := by
  refine decode_textOf (fun part hpart => ?_) (readSegments_take (decode_ok_iff.mp h) count)
  exact semicolon_not_mem (List.mem_of_mem_take hpart)

/-- What the segments of a text are read as behind an entry. -/
def resume (last : Entry) (text : String) : Except Malformed (List Entry) :=
  readSegments (some last) 0 (segmentsOf text)

/-- A text that is read, with another one behind it, is read as its own entries and what the other
text comes to behind the last one of them. -/
theorem decode_append {text : String} (hne : text ≠ "") {m : SourceMap} (h : decode text = .ok m) :
    ∃ last, m.entries.getLast? = some last ∧ ∀ behind : String,
      (∀ more, resume last behind = .ok more →
        decode (text ++ ";" ++ behind) = .ok ⟨m.entries ++ more⟩) ∧
      ∀ index fault, resume last behind = .error ⟨index, fault⟩ →
        decode (text ++ ";" ++ behind) = .error ⟨(segments text).length + index, fault⟩ := by
  have hread := decode_ok_iff.mp h
  have hlength : m.entries.length = (segments text).length := (readSegments_steps hread).1
  have hnonempty : m.entries ≠ [] := by
    intro hnil
    rw [hnil, List.length_nil, segments, if_neg hne] at hlength
    exact fields_ne_nil ';' text.toList (List.length_eq_zero_iff.mp hlength.symm)
  have hlast : m.entries.getLast? = some (m.entries.getLast hnonempty) :=
    List.getLast?_eq_some_getLast hnonempty
  refine ⟨m.entries.getLast hnonempty, hlast, fun behind => ?_⟩
  -- Read behind the last entry, with the segments counted on from those of the text.
  have hwhole : readSegments none 0 (segments (text ++ ";" ++ behind)) =
      ((resume (m.entries.getLast hnonempty) behind).mapError fun malformed =>
        ⟨(segments text).length + malformed.segment, malformed.fault⟩).map
          (m.entries ++ ·) := by
    rw [segments_append hne, readSegments_append_of_ok hread, lastEntry, hlast, Option.some_or,
      Nat.zero_add, resume, ← readSegments_shift, Nat.add_zero]
  refine ⟨fun more hmore => ?_, fun index fault hfault => ?_⟩
  · rw [decode_ok_iff, hwhole, hmore]
    rfl
  · rw [decode_error_iff, hwhole, hfault]
    rfl

/-- Reading goes segment by segment.

* A text is refused at a segment if and only if the text of the segments in front of it is read and
  the segment is the first one that violates a rule. The complaint is that of the first check the
  segment does not pass.
* Whatever is behind that segment, the text is refused for the same reason.
* If a text is read, the front of its segments is read as the front of its map.
* If it is not empty, a text behind it is read in a way that depends only on that text and on the
  last entry: as the entries that come behind those of the first text, or to a fault, the segment of
  which is counted on from those of the first text. -/
theorem decode_segmentwise (text : String) :
    (∀ index fault, decode text = .error ⟨index, fault⟩ ↔ FailsAt text index fault) ∧
    (∀ index fault, decode text = .error ⟨index, fault⟩ → ∀ other : String,
      (segments other).take (index + 1) = (segments text).take (index + 1) →
        decode other = .error ⟨index, fault⟩) ∧
    ∀ m, decode text = .ok m →
      (∀ count, decode (textOf ((segments text).take count)) = .ok ⟨m.entries.take count⟩) ∧
      (text ≠ "" → ∃ last, m.entries.getLast? = some last ∧ ∀ behind : String,
        (∀ more, resume last behind = .ok more →
          decode (text ++ ";" ++ behind) = .ok ⟨m.entries ++ more⟩) ∧
        ∀ index fault, resume last behind = .error ⟨index, fault⟩ →
          decode (text ++ ";" ++ behind) = .error ⟨(segments text).length + index, fault⟩) := by
  refine ⟨fun index fault => ⟨failsAt_of_decode, decode_of_failsAt⟩,
    fun index fault h other hsame => ?_, fun m h => ⟨decode_take h, fun hne => decode_append hne h⟩⟩
  exact decode_of_failsAt ((failsAt_of_decode h).congr hsame)

/-- The second segment has a start and a depth that cannot be read, and the complaint is about the
start. It stays when the third segment, which has too many fields, is replaced by another one.
Behind the first segment, which is read, `;7` comes to two more entries, and the second segment of
`;x` is at fault as the third one of the whole. -/
theorem decode_segmentwise_of_two_faults :
    decode "1:2:0;x:::: ;::::::" = .error ⟨1, .invalid .start ['x']⟩ ∧
      decode "1:2:0;x:::: ;;" = .error ⟨1, .invalid .start ['x']⟩ ∧
      ¬ FailsAt "1:2:0;x:::: ;::::::" 1 (.invalid .depth [' ']) ∧
      decode "1:2:0;;7" = .ok ⟨[⟨1, 2, 0, .regular, 0⟩] ++
        [⟨1, 2, 0, .regular, 0⟩, ⟨7, 2, 0, .regular, 0⟩]⟩ ∧
      decode "1:2:0;;x" = .error ⟨1 + 1, .invalid .start ['x']⟩ := by
  obtain ⟨hfails, hbehind, -⟩ := decode_segmentwise "1:2:0;x:::: ;::::::"
  obtain ⟨-, -, haccepted⟩ := decode_segmentwise "1:2:0"
  have hfault : decode "1:2:0;x:::: ;::::::" = .error ⟨1, .invalid .start ['x']⟩ := rfl
  obtain ⟨-, hresumed⟩ := haccepted ⟨[⟨1, 2, 0, .regular, 0⟩]⟩ rfl
  obtain ⟨last, hlast, hcuts⟩ := hresumed (by decide)
  cases hlast
  refine ⟨hfault, hbehind _ _ hfault _ rfl, fun hdepth => ?_, (hcuts ";7").1 _ rfl,
    (hcuts ";x").2 1 _ rfl⟩
  have hsame := (hfails 1 _).mpr hdepth
  rw [hfault] at hsame
  cases hsame

end SourceMap

end CodeAtlas
