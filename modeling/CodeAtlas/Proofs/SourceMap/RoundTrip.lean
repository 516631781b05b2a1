import CodeAtlas.Proofs.SourceMap

/-!
# Writing and reading source maps

A source map is written with every field of every entry, so nothing is inherited when it is read
again: each segment is read as the entry it is written for, whatever is in front of it
(`readSegment_written`). Only a file below `-1` cannot be read, and the first entry that has one is
where reading stops (`readSegments_written_malformed`).

`IsCanonicalSegment` describes the segments that are written for entries that can be read. The
texts that are written for the map they are read as are those whose segments are all of this form
(`SourceMap.roundTrip`).
-/

namespace CodeAtlas

open Text

/-! ## Written entries -/

/-- The texts of the fields of an entry, in order. -/
def Entry.texts (e : Entry) : List (List Char) :=
  [digits e.start.toNat, digits e.length.toNat, signedDigits e.file.toInt, [e.jump.letter],
    digits e.depth.toNat]

/-- The separators of fields and segments do not occur in the text of a field. -/
theorem not_mem_texts {e : Entry} {text : List Char} (h : text ∈ e.texts) {separator : Char}
    (hseparator : separator = ':' ∨ separator = ';') : separator ∉ text := by
  have hdigit : separator.isDigit = false := by
    rcases hseparator with rfl | rfl <;> rfl
  have hdigits : ∀ n : Nat, separator ∉ digits n := by
    intro n hmem
    rw [(isDecimal_digits n).digits separator hmem] at hdigit
    cases hdigit
  simp only [Entry.texts, List.mem_cons, List.not_mem_nil, or_false] at h
  rcases h with rfl | rfl | rfl | rfl | rfl
  · exact hdigits _
  · exact hdigits _
  · intro hmem
    rcases mem_signedDigits hmem with hsome | hminus
    · rw [hsome] at hdigit
      cases hdigit
    · rcases hseparator with rfl | rfl <;> cases hminus
  · rw [List.mem_singleton]
    rcases hseparator with rfl | rfl <;> cases e.jump <;> decide
  · exact hdigits _

/-- The fields of a written entry are the texts of its fields. -/
theorem fields_written (e : Entry) : fields ':' e.written = e.texts :=
  fields_joined (List.cons_ne_nil _ _) fun _ h => not_mem_texts h (.inl rfl)

/-- A written entry has no semicolon. -/
theorem semicolon_not_mem_written (e : Entry) : ';' ∉ e.written := by
  intro h
  rcases mem_joined h with hcolon | ⟨text, htext, hmem⟩
  · cases hcolon
  · exact not_mem_texts htext (.inr rfl) hmem

/-- An entry has a file that can be read: one that is not below `-1`. -/
def Entry.IsReadable (e : Entry) : Prop :=
  -1 ≤ e.file.toInt

/-- The text of a field of a written entry is not empty, and it denotes the value of the entry,
unless the file cannot be read. -/
theorem textIn_written (e : Entry) (field : SegmentField) :
    field.textIn e.written ≠ [] ∧
      ((field = .file → e.IsReadable) → field.Denotes (field.textIn e.written) (e.get field)) := by
  unfold SegmentField.textIn
  rw [fields_written]
  cases field with
  | start => exact ⟨(isDecimal_digits _).nonempty, fun _ => .inl (isDecimal_digits _)⟩
  | length => exact ⟨(isDecimal_digits _).nonempty, fun _ => .inl (isDecimal_digits _)⟩
  | file => exact ⟨signedDigits_ne_nil _, fun h => ⟨isInteger_signedDigits _, h rfl⟩⟩
  | jump => exact ⟨List.cons_ne_nil _ _, fun _ => rfl⟩
  | depth => exact ⟨(isDecimal_digits _).nonempty, fun _ => .inl (isDecimal_digits _)⟩

/-- A written entry is read as the entry, whatever is in front of it. -/
theorem readSegment_written {before : Option Entry} {e : Entry} (h : e.IsReadable) :
    readSegment before e.written = .ok e := by
  refine readSegment_eq_ok_iff.mpr ⟨?_, fun field => ?_⟩
  · rw [fields_written]
    exact Nat.le_refl 5
  · obtain ⟨hgiven, hdenotes⟩ := textIn_written e field
    exact readField_eq_ok_iff.mpr (.inr ⟨hgiven, hdenotes fun _ => h⟩)

/-- A written file below `-1` cannot be read. -/
theorem readFile_signedDigits {index : Int32} (h : ¬ -1 ≤ index.toInt) :
    readFile (signedDigits index.toInt) = none := by
  have hread : readInteger (Nat.pow 2 31) (signedDigits index.toInt) = some index.toInt :=
    (readInteger_eq_some_iff (by decide)).mpr
      ⟨isInteger_signedDigits _, index.le_toInt, index.toInt_lt⟩
  unfold readFile
  simp only [hread, if_neg h]

/-- A written entry with a file below `-1` is refused for its file. -/
theorem readSegment_written_malformed {before : Option Entry} {e : Entry} (h : ¬ e.IsReadable) :
    readSegment before e.written = .error (.invalid .file (signedDigits e.file.toInt)) := by
  have hstart : readField .start readWord64 (before.map (·.start)) (digits e.start.toNat) =
      .ok e.start :=
    readField_eq_ok_iff.mpr (.inr ⟨(isDecimal_digits _).nonempty, .inl (isDecimal_digits _)⟩)
  have hlength : readField .length readWord64 (before.map (·.length)) (digits e.length.toNat) =
      .ok e.length :=
    readField_eq_ok_iff.mpr (.inr ⟨(isDecimal_digits _).nonempty, .inl (isDecimal_digits _)⟩)
  have hfile : readField .file readFile (before.map (·.file)) (signedDigits e.file.toInt) =
      .error (.invalid .file (signedDigits e.file.toInt)) := by
    unfold readField
    rw [if_neg (signedDigits_ne_nil _), readFile_signedDigits h]
  unfold readSegment
  rw [fields_written]
  -- The fields are read from the left, and the file is the first one that cannot be.
  show (readField .start readWord64 _ (digits e.start.toNat) >>= _) = _
  rw [hstart]
  show (readField .length readWord64 _ (digits e.length.toNat) >>= _) = _
  rw [hlength]
  show (readField .file readFile _ (signedDigits e.file.toInt) >>= _) = _
  rw [hfile]
  rfl

/-! ## Written maps -/

/-- Written entries are read as the entries, if all of them can be read. -/
theorem readSegments_written {before : Option Entry} {index : Nat} {entries : List Entry}
    (h : ∀ e ∈ entries, e.IsReadable) :
    readSegments before index (entries.map Entry.written) = .ok entries := by
  induction entries generalizing before index with
  | nil => rfl
  | cons e rest ih =>
    obtain ⟨he, hrest⟩ := List.forall_mem_cons.mp h
    rw [List.map_cons, readSegments_cons_eq_ok_iff]
    exact ⟨e, rest, readSegment_written he, ih hrest, rfl⟩

/-- Written entries are refused at the first one that cannot be read. -/
theorem readSegments_written_malformed {before : Option Entry} {index : Nat}
    {readable rest : List Entry} {e : Entry} (h : ∀ r ∈ readable, r.IsReadable)
    (he : ¬ e.IsReadable) :
    readSegments before index ((readable ++ e :: rest).map Entry.written) =
      .error ⟨index + readable.length, .invalid .file (signedDigits e.file.toInt)⟩ := by
  induction readable generalizing before index with
  | nil =>
    rw [List.nil_append, List.map_cons, readSegments, readSegment_written_malformed he]
    rfl
  | cons first more ih =>
    obtain ⟨hfirst, hmore⟩ := List.forall_mem_cons.mp h
    have hlength : index + (first :: more).length = index + 1 + more.length := by
      rw [List.length_cons]
      omega
    rw [List.cons_append, List.map_cons, readSegments, readSegment_written hfirst, hlength]
    simp only [ih hmore]

/-- A map with entries is written as a text that is not empty, and the segments of the text are the
written entries. -/
theorem SourceMap.encode_segments {m : SourceMap} (h : m.entries ≠ []) :
    m.encode ≠ "" ∧ fields ';' m.encode.toList = m.entries.map Entry.written := by
  have hsegments : fields ';' m.encode.toList = m.entries.map Entry.written := by
    unfold encode
    rw [String.toList_ofList]
    refine fields_joined (fun hnil => h (List.map_eq_nil_iff.mp hnil)) fun text htext => ?_
    obtain ⟨e, -, rfl⟩ := List.mem_map.mp htext
    exact semicolon_not_mem_written e
  refine ⟨fun hempty => ?_, hsegments⟩
  -- The empty text has the empty segment, and no entry is written as that.
  rw [hempty] at hsegments
  have hmem : [] ∈ m.entries.map Entry.written := hsegments ▸ List.mem_singleton.mpr rfl
  obtain ⟨e, -, hwritten⟩ := List.mem_map.mp hmem
  have hfields : [[]] = e.texts := by
    rw [← fields_written e, hwritten]
    rfl
  have hcount : 1 = 5 := congrArg List.length hfields
  omega

/-- A map is read back from the text it is written as, if all its entries can be read. -/
theorem SourceMap.decode_encode {m : SourceMap} (h : ∀ e ∈ m.entries, e.IsReadable) :
    decode m.encode = .ok m := by
  by_cases hentries : m.entries = []
  · obtain ⟨entries⟩ := m
    cases hentries
    rfl
  · obtain ⟨hnonempty, hsegments⟩ := encode_segments hentries
    rw [decode_eq_ok_iff hnonempty, hsegments]
    exact readSegments_written h

/-- The text of a map is refused at the first entry with a file below `-1`. -/
theorem SourceMap.decode_encode_malformed {m : SourceMap} {readable rest : List Entry} {e : Entry}
    (hm : m.entries = readable ++ e :: rest) (h : ∀ r ∈ readable, r.IsReadable)
    (he : ¬ e.IsReadable) :
    decode m.encode =
      .error ⟨readable.length, .invalid .file (signedDigits e.file.toInt)⟩ := by
  have hentries : m.entries ≠ [] := by
    rw [hm]
    exact List.append_ne_nil_of_right_ne_nil _ (List.cons_ne_nil _ _)
  obtain ⟨hnonempty, hsegments⟩ := encode_segments hentries
  rw [decode_of_ne_empty hnonempty, hsegments, hm, readSegments_written_malformed h he,
    Nat.zero_add]
  rfl

/-- The entries that are read have files that can be read. -/
theorem isReadable_of_readSegments {before : Option Entry} {index : Nat}
    {segments : List (List Char)} {entries : List Entry}
    (h : readSegments before index segments = .ok entries)
    (hbefore : ∀ b ∈ before, b.IsReadable) : ∀ e ∈ entries, e.IsReadable := by
  induction segments generalizing before index entries with
  | nil =>
    cases h
    exact fun e he => absurd he List.not_mem_nil
  | cons segment rest ih =>
    obtain ⟨first, more, hfirst, hmore, rfl⟩ := readSegments_cons_eq_ok_iff.mp h
    have hreadable : first.IsReadable := by
      rcases get_of_readSegment hfirst .file with ⟨-, hinherited⟩ | ⟨-, -, hgiven⟩
      · cases before with
        | none => cases hinherited
        | some b =>
          have hsame : b.file = first.file := Option.some.inj hinherited
          show -1 ≤ first.file.toInt
          rw [← hsame]
          exact hbefore b rfl
      · exact hgiven
    refine List.forall_mem_cons.mpr ⟨hreadable, ih hmore fun b hb => ?_⟩
    cases hb
    exact hreadable

/-- A map that was read has entries that can be read. -/
theorem SourceMap.isReadable_of_decode {text : String} {m : SourceMap} (h : decode text = .ok m) :
    ∀ e ∈ m.entries, e.IsReadable := by
  by_cases htext : text = ""
  · rw [htext, decode_empty] at h
    cases h
    exact fun e he => absurd he List.not_mem_nil
  · exact isReadable_of_readSegments ((decode_eq_ok_iff htext).mp h) fun b hb => by cases hb

/-! ## The texts that are written -/

/-- A segment as it is written: five fields, of which the numbers are canonical decimals. -/
def IsCanonicalSegment (segment : List Char) : Prop :=
  ∃ start length file jump depth, fields ':' segment = [start, length, file, jump, depth] ∧
    IsCanonical UInt64.size start ∧ IsCanonical UInt64.size length ∧
    (file = ['-', '1'] ∨ IsCanonical (Nat.pow 2 31) file) ∧
    (jump = ['i'] ∨ jump = ['o'] ∨ jump = ['-']) ∧ IsCanonical UInt32.size depth

/-- The canonical decimals of 64-bit words are what these words are written as. -/
theorem isCanonical_word64_iff {text : List Char} :
    IsCanonical UInt64.size text ↔ ∃ word : UInt64, text = digits word.toNat := by
  rw [isCanonical_iff]
  constructor
  · rintro ⟨n, hn, rfl⟩
    exact ⟨.ofNat n, by rw [UInt64.toNat_ofNat_of_lt' hn]⟩
  · rintro ⟨word, rfl⟩
    exact ⟨_, word.toNat_lt_size, rfl⟩

/-- The canonical decimals of 32-bit words are what these words are written as. -/
theorem isCanonical_word32_iff {text : List Char} :
    IsCanonical UInt32.size text ↔ ∃ word : UInt32, text = digits word.toNat := by
  rw [isCanonical_iff]
  constructor
  · rintro ⟨n, hn, rfl⟩
    exact ⟨.ofNat n, by rw [UInt32.toNat_ofNat_of_lt' hn]⟩
  · rintro ⟨word, rfl⟩
    exact ⟨_, word.toNat_lt_size, rfl⟩

/-- The index `-1` and the canonical decimals below `2 ^ 31` are what the files that can be read are
written as. -/
theorem isCanonical_file_iff {text : List Char} :
    (text = ['-', '1'] ∨ IsCanonical (Nat.pow 2 31) text) ↔
      ∃ index : Int32, -1 ≤ index.toInt ∧ text = signedDigits index.toInt := by
  rw [isCanonical_iff]
  constructor
  · rintro (rfl | ⟨n, hn, rfl⟩)
    · exact ⟨-1, by decide, by decide⟩
    · have hlimit : (n : Int) < 2 ^ 31 := by
        have hpow : Nat.pow 2 31 = 2147483648 := rfl
        omega
      have hvalue : (Int32.ofInt n).toInt = n := Int32.toInt_ofInt_of_le (by omega) hlimit
      refine ⟨.ofInt n, by omega, ?_⟩
      rw [hvalue]
      rfl
  · rintro ⟨index, hlow, rfl⟩
    have hhigh : index.toInt < 2147483648 := index.toInt_lt
    -- Of the negative numbers only `-1` is left.
    generalize index.toInt = n at hlow hhigh
    cases n with
    | ofNat n => exact .inr ⟨n, Int.ofNat_lt.mp hhigh, rfl⟩
    | negSucc n =>
      obtain rfl : n = 0 := by omega
      exact .inl rfl

/-- The three letters are what the kinds of jumps are written as. -/
theorem jump_letter_iff {text : List Char} :
    (text = ['i'] ∨ text = ['o'] ∨ text = ['-']) ↔ ∃ kind : Jump, text = [kind.letter] := by
  constructor
  · rintro (rfl | rfl | rfl)
    · exact ⟨.into, rfl⟩
    · exact ⟨.out, rfl⟩
    · exact ⟨.regular, rfl⟩
  · rintro ⟨kind, rfl⟩
    cases kind with
    | into => exact .inl rfl
    | out => exact .inr (.inl rfl)
    | regular => exact .inr (.inr rfl)

/-- The canonical segments are what entries that can be read are written as. -/
theorem isCanonicalSegment_iff {segment : List Char} :
    IsCanonicalSegment segment ↔ ∃ e : Entry, e.IsReadable ∧ segment = e.written := by
  unfold IsCanonicalSegment
  simp only [isCanonical_word64_iff, isCanonical_word32_iff, isCanonical_file_iff, jump_letter_iff]
  constructor
  · rintro ⟨_, _, _, _, _, hfields, ⟨start, rfl⟩, ⟨length, rfl⟩, ⟨file, hfile, rfl⟩, ⟨jump, rfl⟩,
      ⟨depth, rfl⟩⟩
    refine ⟨⟨start, length, file, jump, depth⟩, hfile, ?_⟩
    rw [← joined_fields ':' segment, hfields]
    rfl
  · rintro ⟨e, he, rfl⟩
    exact ⟨_, _, _, _, _, fields_written e, ⟨_, rfl⟩, ⟨_, rfl⟩, ⟨_, he, rfl⟩, ⟨_, rfl⟩, ⟨_, rfl⟩⟩

/-- Canonical segments are together what a list of entries is written as. -/
theorem exists_written {segments : List (List Char)}
    (h : ∀ segment ∈ segments, IsCanonicalSegment segment) :
    ∃ entries : List Entry, (∀ e ∈ entries, e.IsReadable) ∧
      segments = entries.map Entry.written := by
  induction segments with
  | nil => exact ⟨[], fun e he => absurd he List.not_mem_nil, rfl⟩
  | cons segment rest ih =>
    obtain ⟨hsegment, hrest⟩ := List.forall_mem_cons.mp h
    obtain ⟨e, he, rfl⟩ := isCanonicalSegment_iff.mp hsegment
    obtain ⟨more, hmore, rfl⟩ := ih hrest
    exact ⟨e :: more, List.forall_mem_cons.mpr ⟨he, hmore⟩, rfl⟩

/-- A text is what it is read as is written as if and only if it is empty or all its segments are
canonical. -/
theorem SourceMap.encode_decode_iff {text : String} :
    (∃ m, decode text = .ok m ∧ m.encode = text) ↔
      text = "" ∨ ∀ segment ∈ fields ';' text.toList, IsCanonicalSegment segment := by
  constructor
  · -- What was read can be read, so it is written in canonical segments.
    rintro ⟨m, hdecode, rfl⟩
    by_cases hentries : m.entries = []
    · left
      unfold encode
      rw [hentries]
      rfl
    · right
      obtain ⟨-, hsegments⟩ := encode_segments hentries
      rw [hsegments]
      intro segment hsegment
      obtain ⟨e, he, rfl⟩ := List.mem_map.mp hsegment
      exact isCanonicalSegment_iff.mpr ⟨e, isReadable_of_decode hdecode e he, rfl⟩
  · rintro (rfl | hcanonical)
    · exact ⟨⟨[]⟩, decode_empty, rfl⟩
    · -- The entries that are written this way are the ones that are read.
      obtain ⟨entries, hreadable, hentries⟩ := exists_written hcanonical
      have hencode : (SourceMap.mk entries).encode = text := by
        unfold encode
        rw [← hentries, joined_fields, String.ofList_toList]
      refine ⟨⟨entries⟩, ?_, hencode⟩
      rw [← hencode]
      exact decode_encode hreadable

/-- The complaint about a written file shows it between quotes. -/
theorem message_invalid_file (n : Int) :
    (SegmentFault.invalid .file (signedDigits n)).message =
      "invalid `f` value \"" ++ String.ofList (signedDigits n) ++ "\"" := by
  have hquoted : quoted (signedDigits n) = "\"" ++ String.ofList (signedDigits n) ++ "\"" := by
    refine quoted_of_graphic fun c hc => ?_
    rcases mem_signedDigits hc with hdigit | rfl
    · obtain ⟨hlow, hhigh⟩ : 48 ≤ c.toNat ∧ c.toNat ≤ 57 := Char.isDigit_iff_toNat.mp hdigit
      refine ⟨by omega, by omega, ?_, ?_⟩
      · rintro rfl
        cases hdigit
      · rintro rfl
        cases hdigit
    · decide
  have hprefix : "invalid " ++ "`f` value" ++ " " ++ "\"" = "invalid `f` value \"" := by decide
  show "invalid " ++ "`f` value" ++ " " ++ quoted (signedDigits n) = _
  rw [hquoted, ← String.append_assoc, ← String.append_assoc, hprefix]

/-- Reading and writing are inverse to each other.

* A map is read back from the text it is written as, if no entry has a file below `-1`.
* Otherwise the text is refused at the first such entry, with a complaint that shows the file.
* Writing what was read and reading it again gives the same map.
* The texts that are written for the map they are read as are the empty text and those whose
  segments are all canonical. -/
theorem SourceMap.roundTrip :
    (∀ m : SourceMap, (∀ e ∈ m.entries, e.IsReadable) → decode m.encode = .ok m) ∧
    (∀ (m : SourceMap) (readable : List Entry) (e : Entry) (rest : List Entry),
      m.entries = readable ++ e :: rest → (∀ r ∈ readable, r.IsReadable) → ¬ e.IsReadable →
        ∃ fault : SegmentFault, decode m.encode = .error ⟨readable.length, fault⟩ ∧
          fault = .invalid .file (signedDigits e.file.toInt) ∧
          fault.message =
            "invalid `f` value \"" ++ String.ofList (signedDigits e.file.toInt) ++ "\"") ∧
    (∀ (text : String) (m : SourceMap), decode text = .ok m → decode m.encode = decode text) ∧
    ∀ text : String, (∃ m, decode text = .ok m ∧ m.encode = text) ↔
      text = "" ∨ ∀ segment ∈ fields ';' text.toList, IsCanonicalSegment segment := by
  refine ⟨fun m h => decode_encode h, fun m readable e rest hm h he => ?_, fun text m h => ?_,
    fun text => encode_decode_iff⟩
  · exact ⟨_, decode_encode_malformed hm h he, rfl, message_invalid_file _⟩
  · rw [h]
    exact decode_encode (isReadable_of_decode h)

/-- A map with an instruction outside all files is read back, one with the file `-2` in its second
entry is refused there, and what a text with a sign and a field left out is read as is read again. -/
theorem roundTrip_of_negative_files :
    SourceMap.decode (SourceMap.encode ⟨[⟨100, 10, -1, .regular, 1⟩]⟩) =
        .ok ⟨[⟨100, 10, -1, .regular, 1⟩]⟩ ∧
      (∃ fault, SourceMap.decode (SourceMap.encode
          ⟨[⟨100, 10, -1, .regular, 1⟩, ⟨5, 6, -2, .into, 0⟩, ⟨7, 8, -3, .out, 0⟩]⟩) =
          .error ⟨1, fault⟩ ∧ fault = .invalid .file ['-', '2'] ∧
        fault.message = "invalid `f` value \"" ++ String.ofList ['-', '2'] ++ "\"") ∧
      SourceMap.decode (SourceMap.encode ⟨[⟨0, 5, 7, .regular, 0⟩]⟩) =
        SourceMap.decode "0:+5:007" := by
  obtain ⟨hread, hmalformed, hagain, -⟩ := SourceMap.roundTrip
  refine ⟨hread _ ?_, hmalformed _ [⟨100, 10, -1, .regular, 1⟩] ⟨5, 6, -2, .into, 0⟩
    [⟨7, 8, -3, .out, 0⟩] rfl ?_ ?_, hagain _ _ rfl⟩
  · unfold Entry.IsReadable
    decide
  · unfold Entry.IsReadable
    decide
  · unfold Entry.IsReadable
    decide

end CodeAtlas
