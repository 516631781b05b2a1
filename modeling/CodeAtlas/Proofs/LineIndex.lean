import CodeAtlas.LineIndex

/-!
# Line breaks over whole runs

Line breaks that are kept are used whatever the sources of a later question say, until they are
cleared. What a question is answered with is said here by the questions before it, for every
sequence of calls (`Journal.tells_ask`): a question has an answer if one about the same file was
answered since the last clear, or if its own sources have a text for the file, and the answer is
about the text that the first question so answered had for the file. As long as every question about
a file has the same text for it, the answers are those of an index in which nothing is kept.

Both kinds of lookup are calls of one function `LineIndex.ask`, which is told what is wanted. A
`Journal` has the index that a sequence of calls leads to together with the questions that were
answered since the last clear.
-/

namespace CodeAtlas.LineIndex

/-! ## Questions -/

/-- A range in a file of a compilation. -/
structure Question where
  /-- The range. -/
  location : RawLocation
  /-- The index of the file. -/
  file : UInt32
  /-- The texts of the compilation. -/
  sources : Sources
  /-- The indices of its files, if its syntax trees are known. -/
  ids : Option FileIds

/-- Where a question finds the text of its file. -/
inductive Question.Resolves (question : Question) (text : String) : Prop
  /-- There are no syntax trees, the index is zero, and the text is the only one. -/
  | sole (path : Path) (hids : question.ids = none) (hfile : question.file = singleFile)
    (hsources : question.sources.entries = [(path, text)])
  /-- The text is at the path with the index, the first of them if several have it. -/
  | listed (ids : FileIds) (path key : Path) (hids : question.ids = some ids)
    (hpath : (path, question.file) ∈ ids.entries)
    (hfirst : ∀ other, (other, question.file) ∈ ids.entries →
      other = path ∨ compare path.place other.place = .lt)
    (hkey : (key, text) ∈ question.sources.entries) (hsame : compare path.place key.place = .eq)

/-- The text of the file of a question. -/
def Question.content (question : Question) : Option String :=
  contentOf question.file question.sources question.ids

/-- The text that is found for the file is the one that the question resolves to. -/
theorem Question.content_eq_some_iff {question : Question} {text : String} :
    question.content = some text ↔ question.Resolves text := by
  obtain ⟨location, file, sources, ids⟩ := question
  unfold content contentOf
  constructor
  · intro h
    split at h
    · rename_i hids
      split at h
      · rename_i path found hentries
        split at h
        · rename_i hfile
          cases h
          exact .sole path hids hfile hentries
        · cases h
      · cases h
    · rename_i known hids
      split at h
      · rename_i path id hfind
        obtain ⟨hmem, hid, hleast⟩ := OrderedMap.find?_entries_eq_some_iff.mp hfind
        obtain rfl : id = file := of_decide_eq_true hid
        obtain ⟨key, hkey, hsame⟩ := OrderedMap.get?_eq_some_iff.mp h
        refine .listed known path key hids hmem (fun other hother => ?_) hkey hsame
        exact (hleast _ hother (decide_eq_true rfl)).imp_left fun heq => congrArg Prod.fst heq
      · cases h
  · rintro (⟨path, hids, hfile, hsources⟩ | ⟨known, path, key, hids, hpath, hfirst, hkey, hsame⟩)
    · simp only at hids hfile hsources
      simp only [hids, hfile, hsources, if_true]
    · simp only at hids hpath hfirst hkey
      have hfind : known.entries.find? (fun entry => decide (entry.2 = file)) =
          some (path, file) := by
        refine OrderedMap.find?_entries_eq_some_iff.mpr ⟨hpath, decide_eq_true rfl, ?_⟩
        rintro ⟨other, id⟩ hother hid
        obtain rfl : id = file := of_decide_eq_true hid
        exact (hfirst other hother).imp_left fun heq => by rw [heq]
      simp only [hids, hfind]
      exact OrderedMap.get?_eq_some_iff.mpr ⟨key, hkey, hsame⟩

/-- What is wanted of a range. -/
inductive Wanted
  /-- Where it starts. -/
  | start
  /-- Both of its ends. -/
  | ends

/-- The type of what is wanted. -/
abbrev Wanted.Position : Wanted → Type
  | start => LineColumn
  | ends => LineColumnRange

/-- What is wanted of a range in a text with the given line breaks. -/
def Wanted.position (breaks : List Nat) (location : RawLocation) :
    (wanted : Wanted) → wanted.Position
  | start => lineColumn breaks location.start.toNat
  | ends => lineColumnRange breaks location

/-- A file is cached if its line breaks are kept. -/
theorem isCached_eq_true_iff {index : LineIndex} {file : UInt32} :
    index.isCached file = true ↔ ∃ breaks, index.breaks.get? file = some breaks :=
  Option.isSome_iff_exists

/-- A lookup of either kind. -/
def ask (index : LineIndex) (question : Question) : (wanted : Wanted) → Answer wanted.Position
  | .start => index.startOf question.location question.file question.sources question.ids
  | .ends => index.rangeOf question.location question.file question.sources question.ids

/-- The line breaks that are there for a question: those that are kept, or else those of the text of
its file. -/
def available (index : LineIndex) (question : Question) : Option (List Nat) :=
  (index.breaks.get? question.file).or (question.content.map lineBreaks)

/-- The line breaks of a file are found if any are available, and they are kept from then on. -/
theorem breaksFor_spec (index : LineIndex) (question : Question) :
    let answer := index.breaksFor question.file question.sources question.ids
    (∀ breaks, index.available question = some breaks →
      answer.result = .ok breaks ∧ ∀ file, answer.index.breaks.get? file =
        if file = question.file then some breaks else index.breaks.get? file) ∧
    (index.available question = none →
      answer.result = .error (.unresolvedFile question.file) ∧ answer.index = index) := by
  unfold available breaksFor Question.content
  cases hkept : index.breaks.get? question.file with
  | some kept =>
    refine ⟨fun breaks hbreaks => ?_, fun hnone => ?_⟩
    · cases hbreaks
      refine ⟨rfl, fun file => ?_⟩
      show index.breaks.get? file = _
      by_cases hfile : file = question.file
      · rw [if_pos hfile, hfile, hkept]
      · rw [if_neg hfile]
    · cases hnone
  | none =>
    cases contentOf question.file question.sources question.ids with
    | none =>
      refine ⟨fun breaks hbreaks => ?_, fun _ => ⟨rfl, rfl⟩⟩
      cases hbreaks
    | some text =>
      refine ⟨fun breaks hbreaks => ?_, fun hnone => ?_⟩
      · cases hbreaks
        exact ⟨rfl, fun file => Table.get?_insert _ _ _ _⟩
      · cases hnone

/-- A lookup of either kind leaves the index that its search for the line breaks leaves. -/
theorem ask_index (index : LineIndex) (question : Question) (wanted : Wanted) :
    (index.ask question wanted).index =
      (index.breaksFor question.file question.sources question.ids).index := by
  cases wanted <;> rfl

/-- A lookup of either kind takes what is wanted from the line breaks. -/
theorem ask_result (index : LineIndex) (question : Question) (wanted : Wanted) :
    (index.ask question wanted).result =
      (index.breaksFor question.file question.sources question.ids).result.map
        fun breaks => wanted.position breaks question.location := by
  cases wanted with
  | ends => rfl
  | start =>
    unfold ask startOf rangeOf
    dsimp only
    cases (index.breaksFor question.file question.sources question.ids).result <;> rfl

/-- With line breaks available, a lookup has its answer from them and keeps them. -/
theorem ask_of_available {index : LineIndex} {question : Question} {breaks : List Nat}
    (h : index.available question = some breaks) (wanted : Wanted) :
    (index.ask question wanted).result = .ok (wanted.position breaks question.location) ∧
      ∀ file, (index.ask question wanted).index.breaks.get? file =
        if file = question.file then some breaks else index.breaks.get? file := by
  obtain ⟨hresult, hbreaks⟩ := (index.breaksFor_spec question).1 breaks h
  rw [ask_result, ask_index, hresult]
  exact ⟨rfl, hbreaks⟩

/-- Without line breaks available, a lookup has no answer and changes nothing. -/
theorem ask_of_not_available {index : LineIndex} {question : Question}
    (h : index.available question = none) (wanted : Wanted) :
    (index.ask question wanted).result = .error (.unresolvedFile question.file) ∧
      (index.ask question wanted).index = index := by
  obtain ⟨hresult, hindex⟩ := (index.breaksFor_spec question).2 h
  rw [ask_result, ask_index, hresult]
  exact ⟨rfl, hindex⟩

/-- What is available for a question does not depend on the line breaks of other files. -/
theorem available_congr {index index' : LineIndex} {question : Question}
    (h : index.breaks.get? question.file = index'.breaks.get? question.file) :
    index.available question = index'.available question := by
  unfold available
  rw [h]

/-- A question has the same answer where the same line breaks are available for it. -/
theorem ask_result_congr {index index' : LineIndex} {question : Question}
    (h : index.available question = index'.available question) (wanted : Wanted) :
    (index.ask question wanted).result = (index'.ask question wanted).result := by
  cases hbreaks : index.available question with
  | some breaks =>
    rw [(ask_of_available hbreaks wanted).1, (ask_of_available (h ▸ hbreaks) wanted).1]
  | none =>
    rw [(ask_of_not_available hbreaks wanted).1, (ask_of_not_available (h ▸ hbreaks) wanted).1]

/-- A question has an answer if and only if line breaks are available for it. -/
theorem ask_ok_iff {index : LineIndex} {question : Question} {wanted : Wanted} :
    (∃ position, (index.ask question wanted).result = .ok position) ↔
      ∃ breaks, index.available question = some breaks := by
  constructor
  · rintro ⟨position, hposition⟩
    cases hbreaks : index.available question with
    | some breaks => exact ⟨breaks, rfl⟩
    | none =>
      rw [(ask_of_not_available hbreaks wanted).1] at hposition
      cases hposition
  · rintro ⟨breaks, hbreaks⟩
    exact ⟨_, (ask_of_available hbreaks wanted).1⟩

/-- A question about a file leaves the line breaks of every other. -/
theorem get?_ask_of_ne (index : LineIndex) {question : Question} {file : UInt32}
    (h : file ≠ question.file) (wanted : Wanted) :
    (index.ask question wanted).index.breaks.get? file = index.breaks.get? file := by
  cases hbreaks : index.available question with
  | some breaks => rw [(ask_of_available hbreaks wanted).2, if_neg h]
  | none => rw [(ask_of_not_available hbreaks wanted).2]

/-- After a question, the line breaks that were available for it are kept for its file. -/
theorem get?_ask_self (index : LineIndex) (question : Question) (wanted : Wanted) :
    (index.ask question wanted).index.breaks.get? question.file = index.available question := by
  cases hbreaks : index.available question with
  | some breaks => rw [(ask_of_available hbreaks wanted).2, if_pos rfl]
  | none =>
    rw [(ask_of_not_available hbreaks wanted).2]
    exact (Option.or_eq_none_iff.mp hbreaks).1

/-! ## Sequences of calls -/

/-- A call. -/
inductive Call
  /-- A lookup. -/
  | lookup (question : Question) (wanted : Wanted)
  /-- All line breaks are cleared. -/
  | clear

/-- An index with the questions that were answered since the last clear, in their order. -/
structure Journal where
  /-- The index. -/
  index : LineIndex
  /-- The questions. -/
  answered : List Question

namespace Journal

/-- The first question about a file that was answered since the last clear. -/
def first (journal : Journal) (file : UInt32) : Option Question :=
  journal.answered.find? fun question => question.file = file

/-- One more call. -/
def perform (journal : Journal) : Call → Journal
  | .lookup question wanted =>
    let answer := journal.index.ask question wanted
    ⟨answer.index,
      if answer.result.isOk then journal.answered ++ [question] else journal.answered⟩
  | .clear => ⟨journal.index.clear, []⟩

/-- What calls come to, from the start. -/
def after (calls : List Call) : Journal :=
  calls.foldl perform ⟨.empty, []⟩

/-- The index of a journal keeps what its questions have found. -/
structure Faithful (journal : Journal) : Prop where
  /-- Nothing is kept for a file about which no question was answered. -/
  absent : ∀ {file}, journal.first file = none → journal.index.breaks.get? file = none
  /-- The line breaks that are kept for a file are those of the text that the first question about
  it has for it. -/
  kept : ∀ {file question}, journal.first file = some question →
    ∃ text, question.content = some text ∧
      journal.index.breaks.get? file = some (lineBreaks text)

/-- What is available for a question is what the first question about its file has that was answered,
the question itself being the last of them. -/
theorem Faithful.available_eq {journal : Journal} (h : journal.Faithful) (question : Question) :
    journal.index.available question =
      ((journal.first question.file).getD question).content.map lineBreaks := by
  unfold available
  cases hfirst : journal.first question.file with
  | none =>
    rw [h.absent hfirst]
    rfl
  | some earlier =>
    obtain ⟨text, hcontent, hkept⟩ := h.kept hfirst
    rw [hkept, Option.getD_some, hcontent]
    rfl

/-- A question that is answered is the first about its file, unless there was one before. -/
theorem first_append_self (journal : Journal) (index : LineIndex) (question : Question) :
    first ⟨index, journal.answered ++ [question]⟩ question.file =
      some ((journal.first question.file).getD question) := by
  unfold first
  rw [List.find?_append, List.find?_singleton, decide_eq_true rfl, if_pos rfl]
  cases journal.answered.find? fun earlier => earlier.file = question.file <;> rfl

/-- A question that is answered does not change which one is the first about another file. -/
theorem first_append_of_ne (journal : Journal) (index : LineIndex) {question : Question}
    {file : UInt32} (h : file ≠ question.file) :
    first ⟨index, journal.answered ++ [question]⟩ file = journal.first file := by
  have hother : ¬decide (question.file = file) = true := fun heq => h (of_decide_eq_true heq).symm
  unfold first
  rw [List.find?_append, List.find?_singleton, if_neg hother, Option.or_none]

/-- An index stays faithful when a question is answered and its line breaks are kept. -/
theorem Faithful.append {journal : Journal} (h : journal.Faithful) {question : Question}
    {breaks : List Nat} {index : LineIndex}
    (hbreaks : journal.index.available question = some breaks)
    (hindex : ∀ file, index.breaks.get? file =
      if file = question.file then some breaks else journal.index.breaks.get? file) :
    Faithful ⟨index, journal.answered ++ [question]⟩ := by
  constructor
  · intro file hfirst
    by_cases hfile : file = question.file
    · rw [hfile, first_append_self] at hfirst
      cases hfirst
    · rw [first_append_of_ne journal index hfile] at hfirst
      rw [hindex, if_neg hfile]
      exact h.absent hfirst
  · intro file own hfirst
    by_cases hfile : file = question.file
    · -- The first question about the file has the text of which the line breaks are available.
      rw [hfile, first_append_self, Option.some.injEq] at hfirst
      have hown : own.content.map lineBreaks = some breaks := by
        rw [← hfirst, ← h.available_eq]
        exact hbreaks
      obtain ⟨text, hcontent, htext⟩ := Option.map_eq_some_iff.mp hown
      refine ⟨text, hcontent, ?_⟩
      rw [hindex, if_pos hfile, htext]
    · rw [first_append_of_ne journal index hfile] at hfirst
      rw [hindex, if_neg hfile]
      exact h.kept hfirst

/-- A call keeps an index faithful to its journal. -/
theorem Faithful.perform {journal : Journal} (h : journal.Faithful) (call : Call) :
    (journal.perform call).Faithful := by
  cases call with
  | clear => exact ⟨fun _ => rfl, fun hfirst => nomatch hfirst⟩
  | lookup question wanted =>
    unfold Journal.perform
    cases hbreaks : journal.index.available question with
    | none =>
      obtain ⟨hresult, hindex⟩ := ask_of_not_available hbreaks wanted
      simp only [hresult, hindex]
      exact h
    | some breaks =>
      obtain ⟨hresult, hkept⟩ := ask_of_available hbreaks wanted
      simp only [hresult, Except.isOk, Except.toBool, if_true]
      exact h.append hbreaks hkept

/-- An index is faithful to the journal of the calls that lead to it. -/
theorem faithful_after (calls : List Call) : (after calls).Faithful := by
  have hfold : ∀ journal : Journal, journal.Faithful → (calls.foldl perform journal).Faithful := by
    induction calls with
    | nil => exact fun journal h => h
    | cons call rest ih => exact fun journal h => ih _ (h.perform call)
  exact hfold _ ⟨fun _ => rfl, fun hfirst => nomatch hfirst⟩

/-- The first question about a file is one of the questions about it that were answered. -/
theorem mem_of_first_eq_some {journal : Journal} {file : UInt32} {question : Question}
    (h : journal.first file = some question) :
    question ∈ journal.answered ∧ question.file = file := by
  have hfile := List.find?_some h
  exact ⟨List.mem_of_find?_eq_some h, by simpa using hfile⟩

/-- A file has no first question if and only if none about it was answered. -/
theorem first_eq_none_iff {journal : Journal} {file : UInt32} :
    journal.first file = none ↔ ¬∃ earlier ∈ journal.answered, earlier.file = file := by
  unfold first
  simp only [List.find?_eq_none, decide_eq_true_eq, not_exists, not_and]

/-- The line breaks of a file are kept if and only if a question about it was answered. -/
theorem Faithful.isCached_iff {journal : Journal} (h : journal.Faithful) (file : UInt32) :
    journal.index.isCached file = true ↔ ∃ earlier ∈ journal.answered, earlier.file = file := by
  rw [isCached_eq_true_iff]
  cases hfirst : journal.first file with
  | none =>
    have habsent := first_eq_none_iff.mp hfirst
    rw [h.absent hfirst]
    refine ⟨?_, fun hanswered => absurd hanswered habsent⟩
    rintro ⟨breaks, hbreaks⟩
    cases hbreaks
  | some earlier =>
    obtain ⟨text, -, hkept⟩ := h.kept hfirst
    exact ⟨fun _ => ⟨earlier, mem_of_first_eq_some hfirst⟩, fun _ => ⟨_, hkept⟩⟩

/-- A question has an answer if one about its file was answered, or if it has a text of its own. -/
theorem Faithful.ok_iff {journal : Journal} (h : journal.Faithful) (question : Question)
    (wanted : Wanted) :
    (∃ position, (journal.index.ask question wanted).result = .ok position) ↔
      (∃ earlier ∈ journal.answered, earlier.file = question.file) ∨
        ∃ text, question.Resolves text := by
  rw [ask_ok_iff, h.available_eq question]
  cases hfirst : journal.first question.file with
  | some earlier =>
    obtain ⟨text, hcontent, -⟩ := h.kept hfirst
    have hanswered : ∃ earlier ∈ journal.answered, earlier.file = question.file :=
      ⟨earlier, mem_of_first_eq_some hfirst⟩
    have hbreaks : earlier.content.map lineBreaks = some (lineBreaks text) := by
      rw [hcontent]
      rfl
    exact ⟨fun _ => .inl hanswered, fun _ => ⟨_, hbreaks⟩⟩
  | none =>
    have habsent := first_eq_none_iff.mp hfirst
    rw [or_iff_right habsent]
    constructor
    · rintro ⟨breaks, hbreaks⟩
      obtain ⟨text, hcontent, -⟩ := Option.map_eq_some_iff.mp hbreaks
      exact ⟨text, Question.content_eq_some_iff.mp hcontent⟩
    · rintro ⟨text, hresolves⟩
      have hcontent : question.content = some text := Question.content_eq_some_iff.mpr hresolves
      exact ⟨_, Option.map_eq_some_iff.mpr ⟨text, hcontent, rfl⟩⟩

/-- The answer to a question is about the text of the first question about its file. -/
theorem Faithful.position_eq {journal : Journal} (h : journal.Faithful) {question : Question}
    {wanted : Wanted} {position : wanted.Position}
    (hposition : (journal.index.ask question wanted).result = .ok position) :
    ∃ first text,
      (journal.answered ++ [question]).find? (fun any => any.file = question.file) = some first ∧
      first.Resolves text ∧ position = wanted.position (lineBreaks text) question.location := by
  obtain ⟨breaks, hbreaks⟩ := ask_ok_iff.mp ⟨position, hposition⟩
  have hcontent := (h.available_eq question).symm.trans hbreaks
  obtain ⟨text, hcontent, hlines⟩ := Option.map_eq_some_iff.mp hcontent
  have hfind : (journal.answered ++ [question]).find? (fun any => any.file = question.file) =
      some ((journal.first question.file).getD question) :=
    first_append_self journal journal.index question
  refine ⟨_, text, hfind, Question.content_eq_some_iff.mp hcontent, ?_⟩
  rw [(ask_of_available hbreaks wanted).1] at hposition
  rw [hlines]
  exact (Except.ok.inj hposition).symm

end Journal

/-! ## Files apart from each other -/

/-- Whether a call has to do with a file. -/
def Call.concerns (file : UInt32) : Call → Bool
  | .lookup question _ => question.file = file
  | .clear => true

/-- What is kept for a file after calls does not depend on lookups in other files. -/
theorem Journal.get?_foldl_concerns {file : UInt32} (calls : List Call) {journal journal' : Journal}
    (h : journal.index.breaks.get? file = journal'.index.breaks.get? file) :
    (calls.foldl perform journal).index.breaks.get? file =
      ((calls.filter (·.concerns file)).foldl perform journal').index.breaks.get? file := by
  induction calls generalizing journal journal' with
  | nil => exact h
  | cons call rest ih =>
    cases call with
    | clear => exact ih rfl
    | lookup question wanted =>
      rw [List.foldl_cons, List.filter_cons]
      unfold Call.concerns
      by_cases hfile : question.file = file
      · subst hfile
        rw [if_pos (decide_eq_true rfl), List.foldl_cons]
        refine ih ?_
        calc (journal.index.ask question wanted).index.breaks.get? question.file
            = journal.index.available question := get?_ask_self _ _ _
          _ = journal'.index.available question := available_congr h
          _ = _ := (get?_ask_self _ _ _).symm
      · rw [if_neg (by simpa using hfile)]
        refine ih ?_
        have hkept : (journal.index.ask question wanted).index.breaks.get? file =
            journal.index.breaks.get? file := get?_ask_of_ne _ (Ne.symm hfile) _
        exact hkept.trans h

/-! ## Between two clears -/

/-- Calls at the end of others that start behind a clear, or at the start of all. -/
def SinceClear (calls stretch : List Call) : Prop :=
  calls = stretch ∨ ∃ past, calls = past ++ .clear :: stretch

/-- A question that was answered was asked by one of the calls or was answered before them. -/
theorem Journal.mem_answered_foldl {calls : List Call} {journal : Journal} {question : Question}
    (h : question ∈ (calls.foldl perform journal).answered) :
    question ∈ journal.answered ∨ ∃ wanted, .lookup question wanted ∈ calls := by
  induction calls generalizing journal with
  | nil => exact .inl h
  | cons call rest ih =>
    rcases ih h with hbefore | ⟨wanted, hrest⟩
    · cases call with
      | clear => exact absurd hbefore List.not_mem_nil
      | lookup own wanted =>
        unfold perform at hbefore
        dsimp only at hbefore
        split at hbefore
        · rcases List.mem_append.mp hbefore with hold | hown
          · exact .inl hold
          · obtain rfl : question = own := List.mem_singleton.mp hown
            exact .inr ⟨wanted, List.mem_cons_self⟩
        · exact .inl hbefore
    · exact .inr ⟨wanted, List.mem_cons_of_mem _ hrest⟩

/-- A question that was answered since the last clear was asked since then. -/
theorem Journal.asked_of_answered {calls stretch : List Call} (hstretch : SinceClear calls stretch)
    {question : Question} (h : question ∈ (after calls).answered) :
    ∃ wanted, .lookup question wanted ∈ stretch := by
  rcases hstretch with rfl | ⟨past, rfl⟩
  · exact (mem_answered_foldl h).resolve_left List.not_mem_nil
  · -- The clear leaves no question that was answered.
    have hcleared : after (past ++ .clear :: stretch) = stretch.foldl perform ⟨.empty, []⟩ := by
      unfold after
      rw [List.foldl_append, List.foldl_cons]
      rfl
    rw [hcleared] at h
    exact (mem_answered_foldl h).resolve_left List.not_mem_nil

/-! ## Runs -/

/-- What a question after calls is answered with. -/
structure Journal.Tells (calls : List Call) (question : Question) (wanted : Wanted) : Prop where
  /-- There is an answer if a question about the file was answered since the last clear, or if the
  question resolves to a text of its own. -/
  ok_iff : (∃ position, ((after calls).index.ask question wanted).result = .ok position) ↔
    (∃ earlier ∈ (after calls).answered, earlier.file = question.file) ∨
      ∃ text, question.Resolves text
  /-- The answer is about the text that the first question about the file resolves to. -/
  position_eq : ∀ position, ((after calls).index.ask question wanted).result = .ok position →
    ∃ first text,
      ((after calls).answered ++ [question]).find? (fun any => any.file = question.file) =
        some first ∧
      first.Resolves text ∧ position = wanted.position (lineBreaks text) question.location
  /-- Without an answer, the error names the file, and nothing changes. -/
  of_failure : (∀ position, ((after calls).index.ask question wanted).result ≠ .ok position) →
    ((after calls).index.ask question wanted).result = .error (.unresolvedFile question.file) ∧
      ((after calls).index.ask question wanted).index = (after calls).index
  /-- The line breaks of a file are kept if a question about it was answered. -/
  isCached_iff : ∀ file, (after calls).index.isCached file = true ↔
    ∃ earlier ∈ (after calls).answered, earlier.file = file
  /-- What is answered for another file, and whether its line breaks are kept, is the same before
  and after the question. -/
  other_files : ∀ (other : Question) (kind : Wanted), other.file ≠ question.file →
    (((after calls).index.ask question wanted).index.ask other kind).result =
        ((after calls).index.ask other kind).result ∧
      ((after calls).index.ask question wanted).index.isCached other.file =
        (after calls).index.isCached other.file
  /-- The answer is the same without all the lookups in other files. -/
  own_file : ((after (calls.filter (·.concerns question.file))).index.ask question wanted).result =
    ((after calls).index.ask question wanted).result
  /-- If all questions about the file since a clear resolve to what this one resolves to, the answer
  is that of an index in which nothing is kept. -/
  uncached : ∀ stretch, SinceClear calls stretch →
    (∀ earlier kind, .lookup earlier kind ∈ stretch → earlier.file = question.file →
      ∀ text, earlier.Resolves text ↔ question.Resolves text) →
    ((after calls).index.ask question wanted).result =
      (LineIndex.empty.ask question wanted).result

/-- In every sequence of calls, what is answered is told by the questions that were answered since
the last clear. -/
theorem Journal.tells_ask (calls : List Call) (question : Question) (wanted : Wanted) :
    Tells calls question wanted := by
  have hfaithful : (after calls).Faithful := faithful_after calls
  constructor
  case ok_iff => exact hfaithful.ok_iff question wanted
  case position_eq => exact fun position hposition => hfaithful.position_eq hposition
  case of_failure =>
    intro hfails
    cases hbreaks : (after calls).index.available question with
    | some breaks => exact absurd (ask_of_available hbreaks wanted).1 (hfails _)
    | none => exact ask_of_not_available hbreaks wanted
  case isCached_iff => exact hfaithful.isCached_iff
  case other_files =>
    intro other kind hother
    have hkept := get?_ask_of_ne (after calls).index hother wanted
    refine ⟨ask_result_congr (available_congr hkept) kind, ?_⟩
    unfold isCached Table.contains
    rw [hkept]
  case own_file =>
    have hkept := get?_foldl_concerns calls (rfl : (⟨.empty, []⟩ : Journal).index.breaks.get?
      question.file = _)
    exact (ask_result_congr (available_congr hkept) wanted).symm
  case uncached =>
    intro stretch hstretch hsame
    refine ask_result_congr ?_ wanted
    have hcontent : (((after calls).first question.file).getD question).content =
        question.content := by
      cases hfirst : (after calls).first question.file with
      | none => rfl
      | some earlier =>
        obtain ⟨hmem, hfile⟩ := mem_of_first_eq_some hfirst
        obtain ⟨kind, hasked⟩ := asked_of_answered hstretch hmem
        apply Option.ext
        intro text
        rw [Option.getD_some, Question.content_eq_some_iff, Question.content_eq_some_iff]
        exact hsame earlier kind hasked hfile text
    rw [hfaithful.available_eq question, hcontent]
    rfl

/-- The only text of a compilation, as a question about where byte 3 is. -/
def Question.sole (text : String) : Question :=
  ⟨.atOffset 3, singleFile, ⟨[(⟨"A.sol"⟩, text)], List.pairwise_singleton _ _⟩, none⟩

/-- The line breaks of an earlier text are used for a later one until they are cleared. -/
example :
    ((Journal.after [.lookup (.sole "a\nbc") .ends]).index.ask (.sole "abcd") .start).result =
        .ok ⟨1, 1⟩ ∧
      ((Journal.after [.lookup (.sole "a\nbc") .ends, .clear]).index.ask (.sole "abcd")
        .start).result = .ok ⟨0, 3⟩ :=
  ⟨rfl, rfl⟩

end CodeAtlas.LineIndex
