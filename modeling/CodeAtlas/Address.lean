/-!
# Code addresses

A piece of running code is either deployed at an account address, where it never changes, or the
init code of a contract creation. Init code has no address yet and is known by the step of the
trace at which the creation started. That step is not unique across transactions.
-/

namespace CodeAtlas

/-- An account address: twenty bytes. -/
structure Address where
  /-- The bytes, the first written first. -/
  bytes : List UInt8
  /-- There are twenty of them. -/
  length_bytes : bytes.length = 20
  deriving DecidableEq

/-- Where a piece of running code comes from. -/
inductive CodeAddress
  /-- Runtime code deployed at an address. -/
  | deployed (address : Address)
  /-- Init code of the creation that started at a step of the trace. -/
  | creation (step : UInt64)
  deriving DecidableEq

namespace CodeAddress

/-- Whether this is creation code. -/
def isCreation : CodeAddress → Bool
  | deployed _ => false
  | creation _ => true

/-- The account address of deployed code. -/
def deployed? : CodeAddress → Option Address
  | deployed address => some address
  | creation _ => none

/-- Creation code is the code without an account address. -/
theorem isCreation_iff (x : CodeAddress) : x.isCreation = true ↔ x.deployed? = none := by
  cases x <;> simp [isCreation, deployed?]

end CodeAddress

end CodeAtlas
