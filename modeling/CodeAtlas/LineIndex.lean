import CodeAtlas.Log
import CodeAtlas.LookupError
import CodeAtlas.OrderedMap
import CodeAtlas.Path
import CodeAtlas.Position
import CodeAtlas.Table

/-!
# Line breaks by file

Entries of a source map name their file by an index of the compiler. The line breaks of a file are
computed when its index is first looked up and kept until they are cleared. The text of a file is
found through its path: the syntax trees of a compilation give the index of each path, and the
sources the text. Where there are no syntax trees and a single source, its index is zero.

Indices may mean other files after the next compilation, so the line breaks are cleared whenever a
compilation has finished. The listener is told through a channel (`EventChannel`) that keeps a
limited number of events: when more come than it keeps, the oldest are lost, and the listener is told
once that some are. `CompilationChannel` is such a channel, and `listenFor` the listener, who takes a
lost event for a compilation like any other.
-/

namespace CodeAtlas

/-! ## The text of a file -/

/-- The texts of a compilation by path. -/
abbrev Sources := OrderedMap Path String Path.place

/-- The indices of the files of a compilation by path. -/
abbrev FileIds := OrderedMap Path UInt32 Path.place

/-- The index of the only file of a compilation of which no syntax trees are known. -/
def singleFile : UInt32 := 0

/-- The text of the file with an index. The index belongs to the first path that has it, whether or
not there is a text for this path. -/
def contentOf (file : UInt32) (sources : Sources) (ids : Option FileIds) : Option String :=
  match ids with
  | none =>
    match sources.entries with
    | [(_, text)] => if file = singleFile then some text else none
    | _ => none
  | some ids =>
    match ids.entries.find? fun (_, id) => id = file with
    | some (path, _) => sources.get? path
    | none => none

/-! ## Lookups -/

/-- The line breaks of the files looked up so far. -/
structure LineIndex where
  /-- The offsets of the line breaks of each file. -/
  breaks : Table UInt32 (List Nat)

namespace LineIndex

/-- No file was looked up. -/
def empty : LineIndex :=
  ⟨.empty⟩

/-- Whether the line breaks of a file are kept. -/
def isCached (index : LineIndex) (file : UInt32) : Bool :=
  index.breaks.contains file

/-- What a lookup comes to. -/
structure Answer (α : Type) where
  /-- The answer, or why there is none. -/
  result : Except LookupError α
  /-- The line breaks kept from now on. -/
  index : LineIndex
  /-- What is reported. -/
  records : List Log.Record

/-- Reports that the line breaks of a file are computed. -/
def computing (file : UInt32) : Log.Record :=
  { level := .trace, message := "computing line breaks",
    values := [("file", .number file.toNat)] }

/-- The line breaks of a file: those that are kept, or else those of its text. -/
def breaksFor (index : LineIndex) (file : UInt32) (sources : Sources) (ids : Option FileIds) :
    Answer (List Nat) :=
  match index.breaks.get? file with
  | some breaks => ⟨.ok breaks, index, []⟩
  | none =>
    match contentOf file sources ids with
    | none => ⟨.error (.unresolvedFile file), index, []⟩
    | some text =>
      let breaks := lineBreaks text
      ⟨.ok breaks, ⟨index.breaks.insert file breaks⟩, [computing file]⟩

/-- The lines and columns of both ends of a range in a file. -/
def rangeOf (index : LineIndex) (location : RawLocation) (file : UInt32) (sources : Sources)
    (ids : Option FileIds) : Answer LineColumnRange :=
  let answer := index.breaksFor file sources ids
  { answer with result := answer.result.map fun breaks => lineColumnRange breaks location }

/-- The line and column at which a range in a file starts. -/
def startOf (index : LineIndex) (location : RawLocation) (file : UInt32) (sources : Sources)
    (ids : Option FileIds) : Answer LineColumn :=
  let answer := index.rangeOf location file sources ids
  { answer with result := answer.result.map (·.start) }

/-- No line breaks are kept. -/
def clear (_ : LineIndex) : LineIndex :=
  empty

/-- Reports that the line breaks are cleared. -/
def clearRecord : Log.Record :=
  { level := .debug, message := "clearing line-break cache" }

end LineIndex

/-! ## Finished compilations -/

/-- What the listener receives. -/
inductive Received
  /-- An event. -/
  | event
  /-- The news that events were lost. -/
  | lagged
  /-- The end of the channel. -/
  | closed
  deriving DecidableEq, Repr

/-- A type of channels that carry the events of finished compilations to one listener. All events
are alike. -/
class EventChannel (χ : Type) where
  /-- The channel with one more event. -/
  send : χ → χ
  /-- The channel when no more events will come. -/
  close : χ → χ
  /-- What the listener receives next, if there is anything yet, and the channel from then on. -/
  receive : χ → Option (Received × χ)

/-- A channel that knows of its events only how many there are. -/
structure CompilationChannel where
  /-- How many events are kept at most. -/
  capacity : Nat
  /-- How many events are kept. -/
  kept : Nat := 0
  /-- Whether events were lost that the listener was not told of. -/
  lost : Bool := false
  /-- Whether no more events will come. -/
  closed : Bool := false
  deriving DecidableEq, Repr

namespace CompilationChannel

/-- The least power of two that is at least `n`, starting from a power `p` below it. -/
def powerFrom (n : Nat) : Nat → Nat → Nat
  | 0, p => p
  | fuel + 1, p => if n ≤ p then p else powerFrom n fuel (2 * p)

/-- A channel that keeps at least the wanted number of events: as many as the next power of two. -/
def ofCapacity (wanted : Nat) : CompilationChannel :=
  { capacity := powerFrom wanted wanted 1 }

/-- One more event. When no more can be kept, the oldest is lost. -/
def send (channel : CompilationChannel) : CompilationChannel :=
  if channel.kept < channel.capacity then { channel with kept := channel.kept + 1 }
  else { channel with lost := true }

/-- No more events will come. -/
def close (channel : CompilationChannel) : CompilationChannel :=
  { channel with closed := true }

/-- What the listener receives next, if there is anything yet: that events were lost, then the
events that are kept, and last the end. -/
def receive (channel : CompilationChannel) : Option (Received × CompilationChannel) :=
  if channel.lost then some (.lagged, { channel with lost := false })
  else if 0 < channel.kept then some (.event, { channel with kept := channel.kept - 1 })
  else if channel.closed then some (.closed, channel)
  else none

instance : EventChannel CompilationChannel :=
  ⟨send, close, receive⟩

/-- How many things the listener can still receive before the end. -/
def backlog (channel : CompilationChannel) : Nat :=
  channel.kept + if channel.lost then 1 else 0

end CompilationChannel

/-- What a listener comes to. -/
structure Listening (χ : Type) where
  /-- The line breaks that are kept. -/
  index : LineIndex
  /-- What is left in the channel. -/
  channel : χ
  /-- What is reported. -/
  records : List Log.Record

/-- The listener clears the line breaks for everything it receives, until the channel ends or has
nothing more for it. It receives at most `fuel` times. -/
def listenFor {χ : Type} [EventChannel χ] : Nat → LineIndex → χ → Listening χ
  | 0, index, channel => ⟨index, channel, []⟩
  | fuel + 1, index, channel =>
    match EventChannel.receive channel with
    | none => ⟨index, channel, []⟩
    | some (.closed, channel) => ⟨index, channel, []⟩
    | some (_, channel) =>
      let later := listenFor fuel index.clear channel
      { later with records := LineIndex.clearRecord :: later.records }

/-- The listener receives all there is in the channel. -/
def listen (index : LineIndex) (channel : CompilationChannel) : Listening CompilationChannel :=
  listenFor (channel.backlog + 1) index channel

end CodeAtlas
