import CodeAtlas.Resolver
import CodeAtlas.Trace

/-!
# Sessions

A debugging session: a resolver over a recorded trace, and everything it has reported. While it
lasts, code and steps can be recorded, the supply of either can fail for a while, and the trace can
be asked directly.
-/

namespace CodeAtlas

/-- A session. -/
structure Session where
  /-- What answers the lookups. -/
  resolver : Resolver (Interruptible RecordedTrace)
  /-- What was reported. -/
  records : List Log.Record := []

namespace Session

/-- A new session over a recorded trace. -/
def ofTrace (trace : RecordedTrace) (isMatch : Matcher) : Session :=
  { resolver := { provider := { inner := trace }, isMatch } }

/-- The recorded trace. -/
def trace (session : Session) : RecordedTrace :=
  session.resolver.provider.inner

/-- The session behind something that its resolver has done. -/
def follow {α : Type} (session : Session) (turn : Turn (Interruptible RecordedTrace) α) :
    Session :=
  ⟨turn.resolver, session.records ++ turn.records⟩

/-- The session with another provider. -/
def withProvider (session : Session) (provider : Interruptible RecordedTrace) : Session :=
  { session with resolver := { session.resolver with provider } }

/-- The session with another recorded trace. -/
def withTrace (session : Session) (trace : RecordedTrace) : Session :=
  session.withProvider { session.resolver.provider with inner := trace }

/-- What can be done in a session. -/
inductive Step
  /-- A single lookup. -/
  | lookup (request : Lookup)
  /-- Lookups that run together. -/
  | join (requests : List Lookup)
  /-- Asks for the generated sources that are kept for an address. -/
  | generated (address : CodeAddress)
  /-- Forgets everything that is kept. -/
  | clear
  /-- Records the code at an address. -/
  | setCode (address : CodeAddress) (code : List UInt8)
  /-- Records one more step of the trace. -/
  | pushStep (pc : Nat)
  /-- Asks the recorded trace for the code at an address. -/
  | getCode (address : CodeAddress)
  /-- Asks the recorded trace for an instruction. -/
  | instructionIndex (address : CodeAddress) (step : Nat)
  /-- From now on questions for code fail, or no longer do. -/
  | failCode (failure : Option Failure)
  /-- From now on questions for instructions fail, or no longer do. -/
  | failIndex (failure : Option Failure)

/-- What comes of it. -/
inductive Outcome
  /-- The result of a lookup. -/
  | lookup (result : LookupResult)
  /-- The results of lookups that ran together. -/
  | join (results : List LookupResult)
  /-- Generated sources, if there are any. -/
  | generated (sources : Option (List GeneratedSource))
  /-- Nothing to tell. -/
  | done
  /-- The code recorded at an address. -/
  | code (result : Except RecordedTrace.Fault (List UInt8))
  /-- The index of an instruction. -/
  | index (result : Except RecordedTrace.Fault Nat)

/-- Does one thing. -/
def step (session : Session) : Step → Session × Outcome
  | .lookup request =>
    let turn := session.resolver.lookup request
    (session.follow turn, .lookup turn.result)
  | .join requests =>
    let turn := session.resolver.join requests
    (session.follow turn, .join turn.result)
  | .generated address => (session, .generated (session.resolver.caches.generatedFor address))
  | .clear => (session.follow session.resolver.clear, .done)
  | .setCode address code => (session.withTrace (session.trace.insertCode address code), .done)
  | .pushStep pc => (session.withTrace (session.trace.pushStep pc), .done)
  | .getCode address => (session, .code (session.trace.codeAt address))
  | .instructionIndex address step =>
    let answer := session.trace.instructionIndex address step
    let session := session.withTrace answer.trace
    ({ session with records := session.records ++ answer.records }, .index answer.index)
  | .failCode failure =>
    (session.withProvider { session.resolver.provider with codeFailure := failure }, .done)
  | .failIndex failure =>
    (session.withProvider { session.resolver.provider with indexFailure := failure }, .done)

end Session

end CodeAtlas
