import CodeAtlas.Proofs.Artifact
import CodeAtlas.Proofs.Bytecode
import CodeAtlas.Proofs.Instruction
import CodeAtlas.Proofs.Policy
import CodeAtlas.Proofs.Trace

/-!
# Instructions of running code

The source map of a contract describes the instructions of the compiled code, and a trace has
positions in the running code. The two have the same instructions although their bytes differ
(`MatchPolicy.index?_of_accepts`): where an instruction starts, tolerant comparison allows no other
byte. Libraries push their address first, so what it replaces is data. Library addresses and values
of immutable variables are data, too, in what compilers emit, and `SparesInstructions` says it of
the candidate at hand. The metadata section and the arguments of a constructor stand behind
everything that is compared, and the walk does not look ahead.

So a lookup at a step of a recorded trace looks for the compiled instruction that ran
(`ResolvedStep.lookup_result`, `instructions_of_accepts`).
-/

namespace CodeAtlas

namespace MatchPolicy

/-- The ranges of library addresses and immutable variables in which any byte of the running code
will do. -/
def openRanges (policy : MatchPolicy) (candidate : Candidate) : List CodeRange :=
  (if policy.ignoreLinkReferences then candidate.linkReferences else []) ++
  (if policy.ignoreImmutables then candidate.immutables else [])

/-- No instruction of the candidate starts in such a range. -/
def SparesInstructions (policy : MatchPolicy) (candidate : Candidate) : Prop :=
  ∀ start ∈ instructionStarts candidate.code, ∀ range ∈ policy.openRanges candidate,
    range.covers start = false

/-- Where the part of a candidate ends that is compared under every circumstance: at its metadata
section, if metadata does not matter, or at its end. -/
def comparedEnd (policy : MatchPolicy) (candidate : Candidate) : Nat :=
  match policy.ignoreMetadata, candidate.metadata with
  | true, some metadata => metadata.start
  | _, _ => candidate.code.length

/-- The compared part of a candidate lies in its code. -/
theorem comparedEnd_le {policy : MatchPolicy} {bytecode : Bytecode} {immutables : List CodeRange}
    {candidate : Candidate} (h : Candidate.ofBytecode bytecode immutables = some candidate) :
    policy.comparedEnd candidate ≤ candidate.code.length := by
  obtain ⟨-, hmetadata⟩ := Candidate.ofBytecode_fields h
  unfold comparedEnd
  split
  · rename_i metadata hignore hsome
    rw [hmetadata] at hsome
    obtain ⟨hstart, hstop⟩ := metadataRange_bounds hsome
    omega
  · exact Nat.le_refl _

/-- The address that a library pushes first is data. -/
theorem libraryAddress_covers_start {code : List UInt8} {start : Nat}
    (hlibrary : libraryStart.isPrefixOf code = true) (hstart : start ∈ instructionStarts code) :
    libraryAddress.covers start = false := by
  obtain ⟨rest, rfl⟩ := List.isPrefixOf_iff_prefix.mp hlibrary
  have hmem : start ∈ 0 :: startsFrom 1 addressLength
      (List.replicate addressLength 0 ++ [0x30, 0x14] ++ rest) := hstart
  rw [CodeRange.covers_eq_false_iff]
  show start < 1 ∨ 1 + addressLength ≤ start
  rcases List.mem_cons.mp hmem with hzero | hbehind
  · exact .inl (by omega)
  · exact .inr (mem_startsFrom_bounds hbehind).1

/-- In the compared part of a candidate no tolerated range covers the start of an instruction. -/
theorem covers_start_of_spares {policy : MatchPolicy} {candidate : Candidate}
    (hspares : policy.SparesInstructions candidate) {running : List UInt8} {start : Nat}
    (hstart : start ∈ instructionStarts candidate.code) (hend : start < policy.comparedEnd candidate)
    {range : CodeRange} (hrange : range ∈ policy.tolerated candidate running) :
    range.covers start = false := by
  unfold tolerated at hrange
  rw [List.mem_append, List.mem_append] at hrange
  rcases hrange with (hopen | hmetadata) | hlibrary
  · exact hspares start hstart range hopen
  · -- The metadata section starts where the compared part ends.
    split at hmetadata
    · rename_i hignore
      obtain ⟨hsome, -⟩ := List.mem_filter.mp hmetadata
      rw [Option.mem_toList] at hsome
      have hcompared : policy.comparedEnd candidate = range.start := by
        unfold comparedEnd
        rw [hignore, Option.mem_def.mp hsome]
      rw [CodeRange.covers_eq_false_iff]
      exact .inl (hcompared ▸ hend)
    · cases hmetadata
  · split at hlibrary
    · rename_i hprefix
      rw [Bool.and_eq_true] at hprefix
      rw [List.mem_singleton.mp hlibrary]
      exact libraryAddress_covers_start hprefix.2 hstart
    · cases hlibrary

/-- Running code that is a form of a candidate has the same instructions as the candidate, as far as
the compared part reaches. -/
theorem index?_of_accepts {policy : MatchPolicy} {bytecode : Bytecode}
    {immutables : List CodeRange} {candidate : Candidate} {running : List UInt8} {isCreation : Bool}
    (hcandidate : Candidate.ofBytecode bytecode immutables = some candidate)
    (haccepts : policy.accepts running candidate isCreation = true)
    (hspares : policy.SparesInstructions candidate) {pc : Nat}
    (hpc : pc < policy.comparedEnd candidate) :
    (InstructionMap.ofCode running).index? pc = (InstructionMap.ofCode candidate.code).index? pc := by
  obtain ⟨-, hlength, -, hdiffer⟩ := accepts_iff.mp haccepts
  have hend : policy.comparedEnd candidate ≤ candidate.code.length := comparedEnd_le hcandidate
  have hrunning : policy.comparedEnd candidate ≤ running.length := calc
    policy.comparedEnd candidate ≤ candidate.code.length := hend
    _ ≤ running.length := hlength
  refine InstructionMap.index?_eq_of_same_opcodes hend hrunning (fun start hstart hlimit => ?_) hpc
  by_cases hsame : candidate.code[start]? = running[start]?
  · exact hsame
  · -- A byte that differs is tolerated, and the start of an instruction is not.
    obtain ⟨range, hrange, hcovers⟩ := hdiffer start (by omega) hsame
    rw [covers_start_of_spares hspares hstart hlimit hrange] at hcovers
    cases hcovers

end MatchPolicy

/-! ## Lookups at steps of a trace -/

/-- A step of a recorded trace, at a program counter of code that is resolved to the artifact of a
candidate with a source map. -/
structure ResolvedStep (policy : MatchPolicy) (artifacts : ArtifactSet) (address : CodeAddress)
    (candidate : Candidate) (m : SourceMap) (resolver : Resolver RecordedTrace) (step pc : Nat) :
    Prop where
  /-- The trace has come about by calls on an empty one. -/
  trace : ∃ calls, resolver.provider = .after calls
  /-- The resolver compares as the policy says. -/
  isMatch : resolver.isMatch = policy.accepts
  /-- The step is recorded with the program counter. -/
  step : resolver.provider.steps[step]? = some pc
  /-- The artifact of the candidate is the one chosen for the code, and its source map can be
  read. -/
  resolves : ∃ running bytecode text, resolver.provider.code.get? address = some running ∧
    artifacts.chosen policy.accepts address running = some (bytecode, candidate) ∧
    bytecode.sourceMap = some text ∧ SourceMap.decode text = .ok m
  /-- If a source map is kept for the address, it is this one. -/
  kept : ∀ kept, resolver.caches.cached address = some kept → kept.map = m

/-- A lookup at a step looks in the source map for the instruction of the running code that starts
at the program counter, and fails if none does. -/
theorem ResolvedStep.lookup_result {policy : MatchPolicy} {artifacts : ArtifactSet}
    {address : CodeAddress} {candidate : Candidate} {m : SourceMap}
    {resolver : Resolver RecordedTrace} {step pc : Nat}
    (h : ResolvedStep policy artifacts address candidate m resolver step pc) :
    ∃ running isCreation, policy.accepts running candidate isCreation = true ∧
      (resolver.lookup ⟨address, artifacts, .atStep step⟩).result =
        match (InstructionMap.ofCode running).index? pc with
        | none => .error (.provider (RecordedTrace.Fault.notBoundary pc address).failure)
        | some place => (m.lookup place).map .entry := by
  obtain ⟨calls, htrace⟩ := h.trace
  obtain ⟨running, bytecode, text, hcode, hchosen, htext, hdecode⟩ := h.resolves
  have hcoherent : resolver.provider.Coherent := htrace ▸ RecordedTrace.coherent_after calls
  have hreply : resolver.provider.codeReply address = .ok running := by
    unfold RecordedTrace.codeReply RecordedTrace.codeAt
    rw [hcode]
    rfl
  have hresolution : Caches.resolution resolver.isMatch artifacts address
      (resolver.provider.codeReply address) = .ok ⟨m, bytecode.generated⟩ := by
    rw [hreply, h.isMatch]
    exact Caches.resolution_of_chosen hchosen htext hdecode
  obtain ⟨resolved, hmap, hresult⟩ := hcoherent.steady_replies.lookup_of_map .refl
    ⟨address, artifacts, .atStep step⟩ hresolution rfl h.kept
  refine ⟨running, address.isCreation, (ArtifactSet.chosen_spec hchosen).2, ?_⟩
  have hindex : resolver.provider.indexReply address step =
      (RecordedTrace.indexIn (InstructionMap.ofCode running) pc address).mapError
        RecordedTrace.Fault.failure := by
    unfold RecordedTrace.indexReply RecordedTrace.indexAt
    rw [h.step]
    simp only [hcode]
  rw [hresult]
  unfold Lookup.outcome
  simp only [hindex, hmap]
  unfold RecordedTrace.indexIn
  cases (InstructionMap.ofCode running).index? pc with
  | none => rfl
  | some place => rfl

/-- Tolerant comparison preserves the instructions of a candidate, if no instruction starts in a
library address or a value of an immutable variable that the policy lets vary. All running code that
the policy accepts has the same instructions as the candidate, up to the metadata section if it does
not matter and up to the end of the candidate otherwise. So a lookup at a step of a recorded trace,
if it is resolved to the artifact of the candidate,

* finds the entry of the instruction of the candidate that starts at the program counter;
* fails with the index of this instruction if the source map has not so many entries;
* fails with a fault of the trace if the program counter lies in the data of a push. -/
theorem instructions_of_accepts {policy : MatchPolicy} {bytecode : Bytecode}
    {immutables : List CodeRange} {candidate : Candidate}
    (hcandidate : Candidate.ofBytecode bytecode immutables = some candidate)
    (hspares : policy.SparesInstructions candidate) :
    (∀ running isCreation, policy.accepts running candidate isCreation = true →
      ∀ pc < policy.comparedEnd candidate,
        (InstructionMap.ofCode running).index? pc =
          (InstructionMap.ofCode candidate.code).index? pc) ∧
    ∀ artifacts address (m : SourceMap) resolver step pc,
      ResolvedStep policy artifacts address candidate m resolver step pc →
      pc < policy.comparedEnd candidate →
      (∀ (place : Nat) (entry : Entry), (instructionStarts candidate.code)[place]? = some pc →
        m.entryAt place = some entry →
        (resolver.lookup ⟨address, artifacts, .atStep step⟩).result = .ok (.entry entry)) ∧
      (∀ place : Nat, (instructionStarts candidate.code)[place]? = some pc → m.size ≤ place →
        (resolver.lookup ⟨address, artifacts, .atStep step⟩).result =
          .error (.indexOutOfRange place m.size)) ∧
      (InPushData candidate.code pc →
        (resolver.lookup ⟨address, artifacts, .atStep step⟩).result =
          .error (.provider (RecordedTrace.Fault.notBoundary pc address).failure)) := by
  refine ⟨fun running isCreation haccepts pc hpc =>
    MatchPolicy.index?_of_accepts hcandidate haccepts hspares hpc,
    fun artifacts address m resolver step pc hstep hpc => ?_⟩
  obtain ⟨running, isCreation, haccepts, hresult⟩ := hstep.lookup_result
  rw [MatchPolicy.index?_of_accepts hcandidate haccepts hspares hpc] at hresult
  refine ⟨fun place entry hplace hentry => ?_, fun place hplace hsize => ?_, fun hdata => ?_⟩
  · rw [hresult, InstructionMap.index?_ofCode_eq_some_iff.mpr hplace]
    simp only [SourceMap.lookup, hentry]
    rfl
  · have hnone : m.entryAt place = none := List.getElem?_eq_none hsize
    rw [hresult, InstructionMap.index?_ofCode_eq_some_iff.mpr hplace]
    simp only [SourceMap.lookup, hnone]
    rfl
  · have hlength : pc < candidate.code.length := calc
      pc < policy.comparedEnd candidate := hpc
      _ ≤ candidate.code.length := MatchPolicy.comparedEnd_le hcandidate
    have hnone := (not_mem_instructionStarts_iff hlength).mpr hdata
    rw [hresult, InstructionMap.index?_ofCode_eq_none_iff.mpr hnone]

/-! A library that pushes its address, compares with it, and pushes an immutable value. -/

/-- The compiled code of the library. -/
def libraryBytecode : Bytecode :=
  ⟨.plain (libraryStart ++ [0x60, 0x00, 0x00]), some "0:1:0;1:1;2:1;3:1", [], []⟩

/-- The library as a candidate. -/
def libraryCandidate : Candidate :=
  ⟨libraryStart ++ [0x60, 0x00, 0x00], [], [⟨24, 25⟩], none⟩

/-- A trace of the deployed library at three program counters. -/
def libraryTrace : List RecordedTrace.Call :=
  [.insertCode (.deployed .sample)
      (0x73 :: List.replicate addressLength 0x11 ++ [0x30, 0x14, 0x60, 0x2a, 0x00]),
    .withSteps [23, 25, 24]]

/-- A new resolver over the trace. -/
def libraryResolver : Resolver RecordedTrace :=
  { provider := .after libraryTrace, isMatch := MatchPolicy.accepts {} }

/-- The artifacts of the library. -/
def libraryArtifacts : ArtifactSet :=
  .ofList [(⟨"L.sol"⟩, "L", ⟨none, some ⟨some libraryBytecode, [⟨24, 25⟩]⟩⟩)]

/-- The push of the library has the fourth entry, the stop behind it has none, and the pushed value
is no instruction, although the address and the value differ from those in the compiled code. -/
theorem instructions_of_library :
    (libraryResolver.lookup ⟨.deployed .sample, libraryArtifacts, .atStep 0⟩).result =
        .ok (.entry ⟨3, 1, 0, .regular, 0⟩) ∧
      (libraryResolver.lookup ⟨.deployed .sample, libraryArtifacts, .atStep 1⟩).result =
        .error (.indexOutOfRange 4 4) ∧
      (libraryResolver.lookup ⟨.deployed .sample, libraryArtifacts, .atStep 2⟩).result =
        .error (.provider (RecordedTrace.Fault.notBoundary 24 (.deployed .sample)).failure) := by
  have hcandidate : Candidate.ofBytecode libraryBytecode [⟨24, 25⟩] = some libraryCandidate := rfl
  have hspares : MatchPolicy.SparesInstructions {} libraryCandidate := by
    unfold MatchPolicy.SparesInstructions
    decide
  have hstep : ∀ step pc, libraryResolver.provider.steps[step]? = some pc →
      ResolvedStep {} libraryArtifacts (.deployed .sample) libraryCandidate
        ⟨[⟨0, 1, 0, .regular, 0⟩, ⟨1, 1, 0, .regular, 0⟩, ⟨2, 1, 0, .regular, 0⟩,
          ⟨3, 1, 0, .regular, 0⟩]⟩ libraryResolver step pc := fun step pc hpc =>
    { trace := ⟨libraryTrace, rfl⟩
      isMatch := rfl
      step := hpc
      resolves := ⟨_, libraryBytecode, "0:1:0;1:1;2:1;3:1", rfl, rfl, rfl, rfl⟩
      kept := fun kept hkept => by cases hkept }
  obtain ⟨-, hlookups⟩ := instructions_of_accepts hcandidate hspares
  refine ⟨?_, ?_, ?_⟩
  · exact (hlookups _ _ _ _ 0 23 (hstep 0 23 rfl) (by decide)).1 3 _ rfl rfl
  · exact (hlookups _ _ _ _ 1 25 (hstep 1 25 rfl) (by decide)).2.1 4 rfl (by decide)
  · exact (hlookups _ _ _ _ 2 24 (hstep 2 24 rfl) (by decide)).2.2
      ⟨23, 0x60, by decide, rfl, by decide, by decide⟩

end CodeAtlas
