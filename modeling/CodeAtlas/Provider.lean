import CodeAtlas.Address
import CodeAtlas.Log

/-!
# Providers of code

The library talks to no node and runs no code itself. Whatever drives a debugging session provides
the code at an address and the index of the instruction that ran at a step of the trace
(`CodeProvider`). Either can fail, and then the failure is handed on as it came. An answer may
change the provider, for instance what it remembers, and the reply has the provider to ask next.

`Interruptible` wraps a provider whose answers can fail for a while, and counts how often it is
asked for code.
-/

namespace CodeAtlas

/-! ## Replies -/

/-- A failure of what provides code, as it was reported: a text and the texts of its causes, the
outermost first. -/
structure Failure where
  /-- What failed. -/
  message : String
  /-- Why it failed. -/
  causes : List String := []
  deriving DecidableEq, Repr

/-- The failure that is told by a list of texts, the root cause first and each further text saying
what failed because of the one before. -/
def Failure.ofLayers (layers : List String) : Option Failure :=
  match layers.reverse with
  | [] => none
  | message :: causes => some ⟨message, causes⟩

/-- What a provider of the type `σ` replies to a question. -/
structure Reply (σ α : Type) where
  /-- The answer, or why there is none. -/
  result : Except Failure α
  /-- The provider from now on. -/
  provider : σ
  /-- What is reported. -/
  records : List Log.Record := []

/-- A type of providers of code. -/
class CodeProvider (σ : Type) where
  /-- The code that runs at an address, which is init code for a creation. -/
  code : σ → CodeAddress → Reply σ (List UInt8)
  /-- The index of the instruction of the code at an address that ran at a step of the trace. -/
  instructionIndex : σ → CodeAddress → Nat → Reply σ Nat

/-! ## Interruptions -/

/-- A provider that can be made to fail. -/
structure Interruptible (σ : Type) where
  /-- What answers as long as nothing fails. -/
  inner : σ
  /-- How questions for code fail at the moment. -/
  codeFailure : Option Failure := none
  /-- How questions for instructions fail at the moment. -/
  indexFailure : Option Failure := none
  /-- How often code was asked for, failures included. -/
  fetches : Nat := 0

namespace Interruptible

variable {σ : Type} [CodeProvider σ]

/-- Asks for code. -/
def code (provider : Interruptible σ) (address : CodeAddress) :
    Reply (Interruptible σ) (List UInt8) :=
  let counted := { provider with fetches := provider.fetches + 1 }
  match provider.codeFailure with
  | some failure => ⟨.error failure, counted, []⟩
  | none =>
    let reply := CodeProvider.code provider.inner address
    ⟨reply.result, { counted with inner := reply.provider }, reply.records⟩

/-- Asks for an instruction. -/
def instructionIndex (provider : Interruptible σ) (address : CodeAddress) (step : Nat) :
    Reply (Interruptible σ) Nat :=
  match provider.indexFailure with
  | some failure => ⟨.error failure, provider, []⟩
  | none =>
    let reply := CodeProvider.instructionIndex provider.inner address step
    ⟨reply.result, { provider with inner := reply.provider }, reply.records⟩

instance : CodeProvider (Interruptible σ) where
  code := code
  instructionIndex := instructionIndex

end Interruptible

end CodeAtlas
