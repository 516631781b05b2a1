import CodeAtlas.Proofs.Numeral
import CodeAtlas.SourceMap.Written

/-!
# The fields of a segment

The five fields of a segment differ in their place, in what they are read as, and in whether they
have a value that nothing gives. All else is the same for each of them, so it is said once for any
`SegmentField`: its values, the texts that denote them (`SegmentField.Denotes`) and the value of an
entry there (`Entry.get`).

A segment is read if it has no more than five fields and each of them has a value, its own or an
inherited one (`readSegment_eq_ok_iff`, `exists_readSegment_iff`). Segments are read one behind the
other (`readSegments_cons_eq_ok_iff`).
-/

namespace CodeAtlas

open Text

/-! ## Fields -/

namespace SegmentField

/-- What the values of a field are. -/
abbrev Value : SegmentField → Type
  | start => UInt64
  | length => UInt64
  | file => Int32
  | jump => Jump
  | depth => UInt32

/-- The number of fields in front of a field. -/
def place : SegmentField → Nat
  | start => 0
  | length => 1
  | file => 2
  | jump => 3
  | depth => 4

/-- The text of a field in a segment, which is empty where the segment ends before the field. -/
def textIn (field : SegmentField) (segment : List Char) : List Char :=
  (fields ':' segment).getD field.place []

/-- The reader of a field. -/
def read : (field : SegmentField) → List Char → Option field.Value
  | start => readWord64
  | length => readWord64
  | file => readFile
  | jump => readJump
  | depth => readWord32

/-- A text denotes a value of a field. -/
def Denotes : (field : SegmentField) → List Char → field.Value → Prop
  | start, text, word => IsNatural text word.toNat
  | length, text, word => IsNatural text word.toNat
  | file, text, index => IsInteger text index.toInt ∧ -1 ≤ index.toInt
  | jump, text, kind => text = [kind.letter]
  | depth, text, word => IsNatural text word.toNat

/-- The value of a field that is not given in the first segment. -/
def initial : (field : SegmentField) → Option field.Value
  | start => none
  | length => none
  | file => none
  | jump => some .regular
  | depth => some 0

end SegmentField

/-- The value of an entry in a field. -/
def Entry.get (e : Entry) : (field : SegmentField) → field.Value
  | .start => e.start
  | .length => e.length
  | .file => e.file
  | .jump => e.jump
  | .depth => e.depth

/-- The entry with given values in the fields. -/
def Entry.ofFields (value : (field : SegmentField) → field.Value) : Entry :=
  ⟨value .start, value .length, value .file, value .jump, value .depth⟩

/-- The entry has the values it is made of. -/
@[simp]
theorem Entry.get_ofFields (value : (field : SegmentField) → field.Value) (field : SegmentField) :
    (ofFields value).get field = value field := by
  cases field <;> rfl

/-- The value that a field inherits: the one of the entry before, or the initial one. -/
def SegmentField.inherited (field : SegmentField) : Option Entry → Option field.Value
  | some before => some (before.get field)
  | none => field.initial

/-! ## Readers -/

/-- The index of a file is read from the integers that denote it. -/
theorem readFile_eq_some_iff {text : List Char} {index : Int32} :
    readFile text = some index ↔ IsInteger text index.toInt ∧ -1 ≤ index.toInt := by
  have hlimit : 0 < Nat.pow 2 31 := by decide
  unfold readFile
  constructor
  · intro h
    split at h
    · rename_i n hread
      obtain ⟨hinteger, hlow, hhigh⟩ := (readInteger_eq_some_iff hlimit).mp hread
      split at h
      · rename_i hfile
        cases h
        have hvalue : (Int32.ofInt n).toInt = n := Int32.toInt_ofInt_of_le hlow hhigh
        rw [hvalue]
        exact ⟨hinteger, hfile⟩
      · cases h
    · cases h
  · rintro ⟨hinteger, hfile⟩
    have hread : readInteger (Nat.pow 2 31) text = some index.toInt :=
      (readInteger_eq_some_iff hlimit).mpr ⟨hinteger, index.le_toInt, index.toInt_lt⟩
    simp only [hread, if_pos hfile, Int32.ofInt_toInt]

/-- The kind of a jump is read from its letter. -/
theorem readJump_eq_some_iff {text : List Char} {kind : Jump} :
    readJump text = some kind ↔ text = [kind.letter] := by
  unfold readJump
  split
  · rw [Jump.ofLetter_eq_some_iff, List.cons.injEq, and_iff_left rfl]
  · rename_i hlength
    constructor
    · intro h
      cases h
    · intro h
      exact absurd h (hlength _)

/-- A field is read from the texts that denote its values. -/
theorem SegmentField.read_eq_some_iff {field : SegmentField} {text : List Char}
    {value : field.Value} : field.read text = some value ↔ field.Denotes text value := by
  cases field with
  | start => exact readWord64_eq_some_iff
  | length => exact readWord64_eq_some_iff
  | file => exact readFile_eq_some_iff
  | jump => exact readJump_eq_some_iff
  | depth => exact readWord32_eq_some_iff

/-- A field has the value that its text denotes, or the inherited one if its text is empty. -/
theorem readField_eq_ok_iff {field : SegmentField} {inherited : Option field.Value}
    {text : List Char} {value : field.Value} :
    readField field field.read inherited text = .ok value ↔
      (text = [] ∧ inherited = some value) ∨ (text ≠ [] ∧ field.Denotes text value) := by
  rw [← SegmentField.read_eq_some_iff]
  unfold readField
  by_cases htext : text = []
  · cases inherited <;> simp [htext]
  · cases field.read text <;> simp [htext]

/-- A composition of two steps succeeds if the first step does and the second one behind it. -/
theorem bind_eq_ok_iff {ε α β : Type} {first : Except ε α} {second : α → Except ε β} {b : β} :
    (first >>= second) = .ok b ↔ ∃ a, first = .ok a ∧ second a = .ok b := by
  cases first with
  | error fault => exact ⟨fun h => (nomatch h), fun ⟨_, h, _⟩ => (nomatch h)⟩
  | ok a => exact ⟨fun h => ⟨a, rfl, h⟩, fun ⟨_, h, hb⟩ => (Except.ok.inj h) ▸ hb⟩

/-- The value of a field in a segment behind the entry `before`. -/
def SegmentField.readIn (field : SegmentField) (before : Option Entry) (segment : List Char) :
    Except SegmentFault field.Value :=
  readField field field.read (field.inherited before) (field.textIn segment)

/-- A segment with no more than five fields is read field by field. -/
theorem readSegment_eq (before : Option Entry) (segment : List Char) :
    readSegment before segment =
      if 5 < (fields ':' segment).length then
        .error (.tooManyFields (fields ':' segment).length)
      else do
        let start ← SegmentField.start.readIn before segment
        let length ← SegmentField.length.readIn before segment
        let file ← SegmentField.file.readIn before segment
        let jump ← SegmentField.jump.readIn before segment
        let depth ← SegmentField.depth.readIn before segment
        return { start, length, file, jump, depth } := by
  cases before <;> rfl

/-- A segment is read as an entry if it has no more than five fields and each of them is read as the
value of the entry. -/
theorem readSegment_eq_ok_iff {before : Option Entry} {segment : List Char} {e : Entry} :
    readSegment before segment = .ok e ↔
      (fields ':' segment).length ≤ 5 ∧ ∀ field : SegmentField,
        readField field field.read (field.inherited before) (field.textIn segment) =
          .ok (e.get field) := by
  rw [readSegment_eq]
  by_cases hcount : 5 < (fields ':' segment).length
  · rw [if_pos hcount]
    exact iff_of_false nofun fun ⟨hfits, _⟩ => absurd hfits (Nat.not_le.mpr hcount)
  · rw [if_neg hcount]
    simp only [bind_eq_ok_iff]
    constructor
    · rintro ⟨start, h₁, length, h₂, file, h₃, jump, h₄, depth, h₅, he⟩
      cases he
      refine ⟨Nat.le_of_not_lt hcount, fun field => ?_⟩
      cases field with
      | start => exact h₁
      | length => exact h₂
      | file => exact h₃
      | jump => exact h₄
      | depth => exact h₅
    · rintro ⟨-, h⟩
      exact ⟨e.start, h .start, e.length, h .length, e.file, h .file, e.jump, h .jump, e.depth,
        h .depth, rfl⟩

/-- An entry has the value of a field that its segment gives, and the inherited value of a field that
it does not give. -/
theorem get_of_readSegment {before : Option Entry} {segment : List Char} {e : Entry}
    (h : readSegment before segment = .ok e) (field : SegmentField) :
    (field.textIn segment = [] ∧ field.inherited before = some (e.get field)) ∨
      (field.textIn segment ≠ [] ∧ field.Denotes (field.textIn segment) (e.get field)) := by
  obtain ⟨-, hfields⟩ := readSegment_eq_ok_iff.mp h
  exact readField_eq_ok_iff.mp (hfields field)

/-- A text can be read as a segment: it has no more than five fields, and each field that is not
empty denotes a value. -/
def IsSegment (text : List Char) : Prop :=
  (fields ':' text).length ≤ 5 ∧ ∀ field : SegmentField, field.textIn text ≠ [] →
    ∃ value, field.Denotes (field.textIn text) value

/-- A segment is read behind an entry, or as the first one, if and only if every field that it does
not give inherits a value. -/
theorem exists_readSegment_iff {before : Option Entry} {segment : List Char} :
    (∃ e, readSegment before segment = .ok e) ↔
      IsSegment segment ∧ ∀ field : SegmentField, field.textIn segment = [] →
        ∃ value, field.inherited before = some value := by
  constructor
  · rintro ⟨e, h⟩
    obtain ⟨hcount, -⟩ := readSegment_eq_ok_iff.mp h
    refine ⟨⟨hcount, fun field htext => ?_⟩, fun field htext => ?_⟩
    · rcases get_of_readSegment h field with ⟨hempty, -⟩ | ⟨-, hdenotes⟩
      · exact absurd hempty htext
      · exact ⟨_, hdenotes⟩
    · rcases get_of_readSegment h field with ⟨-, hinherited⟩ | ⟨hgiven, -⟩
      · exact ⟨_, hinherited⟩
      · exact absurd htext hgiven
  · rintro ⟨⟨hcount, hgiven⟩, hinherited⟩
    have hvalue : ∀ field : SegmentField, ∃ value : field.Value,
        readField field field.read (field.inherited before) (field.textIn segment) =
          .ok value := by
      intro field
      by_cases htext : field.textIn segment = []
      · obtain ⟨value, h⟩ := hinherited field htext
        exact ⟨value, readField_eq_ok_iff.mpr (.inl ⟨htext, h⟩)⟩
      · obtain ⟨value, h⟩ := hgiven field htext
        exact ⟨value, readField_eq_ok_iff.mpr (.inr ⟨htext, h⟩)⟩
    -- The values of the fields are put together to the entry.
    refine ⟨.ofFields fun field => (hvalue field).choose,
      readSegment_eq_ok_iff.mpr ⟨hcount, fun field => ?_⟩⟩
    rw [Entry.get_ofFields]
    exact (hvalue field).choose_spec

/-! ## One segment behind the other -/

/-- The first segment is read behind the entry before, and the rest behind what it is read as. -/
theorem readSegments_cons_eq_ok_iff {before : Option Entry} {index : Nat} {segment : List Char}
    {rest : List (List Char)} {entries : List Entry} :
    readSegments before index (segment :: rest) = .ok entries ↔
      ∃ e more, readSegment before segment = .ok e ∧
        readSegments (some e) (index + 1) rest = .ok more ∧ entries = e :: more := by
  rw [readSegments]
  cases hsegment : readSegment before segment with
  | error fault => simp
  | ok e =>
    cases hrest : readSegments (some e) (index + 1) rest with
    | error malformed => simp [hrest]
    | ok more => simp [hrest, eq_comm]

/-- Segments are refused for the first one, or for one behind what the first one is read as. -/
theorem readSegments_cons_eq_error_iff {before : Option Entry} {index : Nat} {segment : List Char}
    {rest : List (List Char)} {malformed : Malformed} :
    readSegments before index (segment :: rest) = .error malformed ↔
      (∃ fault, readSegment before segment = .error fault ∧ malformed = ⟨index, fault⟩) ∨
      ∃ e, readSegment before segment = .ok e ∧
        readSegments (some e) (index + 1) rest = .error malformed := by
  rw [readSegments]
  cases hsegment : readSegment before segment with
  | error fault => simp [eq_comm]
  | ok e =>
    cases hrest : readSegments (some e) (index + 1) rest with
    | error malformed' => simp [hrest]
    | ok more => simp [hrest]

/-- The empty text is the map without entries. -/
theorem SourceMap.decode_empty : decode "" = .ok ⟨[]⟩ :=
  rfl

/-- The entries of any other text are what its segments are read as. -/
theorem SourceMap.decode_of_ne_empty {text : String} (h : text ≠ "") :
    decode text = (readSegments none 0 (fields ';' text.toList)).map SourceMap.mk := by
  have hnonempty : text.toList ≠ [] := fun hnil => h (String.toList_eq_nil_iff.mp hnil)
  unfold decode
  rw [if_neg hnonempty]
  cases readSegments none 0 (fields ';' text.toList) with
  | error malformed => rfl
  | ok entries => rfl

/-- A text that is not empty is read as a source map if and only if its segments are read as the
entries. -/
theorem SourceMap.decode_eq_ok_iff {text : String} (h : text ≠ "") {m : SourceMap} :
    decode text = .ok m ↔ readSegments none 0 (fields ';' text.toList) = .ok m.entries := by
  rw [decode_of_ne_empty h]
  cases readSegments none 0 (fields ';' text.toList) with
  | error malformed => exact ⟨fun h => (nomatch h), fun h => (nomatch h)⟩
  | ok entries =>
    constructor
    · intro hmap
      cases hmap
      rfl
    · intro hentries
      cases hentries
      rfl

end CodeAtlas
