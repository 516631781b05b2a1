import CodeAtlas.Address.Written
import CodeAtlas.Provider
import CodeAtlas.SourceMap.Written

/-!
# Failed lookups

Why the source position of an instruction cannot be told. Only one of the reasons is expected:
contracts compiled without a source map have none, and there the bytecode itself is all there is to
show. A failure of what provides the code is passed on as it came.
-/

namespace CodeAtlas

/-- Why a lookup fails. -/
inductive LookupError
  /-- The written source map cannot be read. -/
  | malformedSourceMap (malformed : Malformed)
  /-- The source map has not so many entries. -/
  | indexOutOfRange (index size : Nat)
  /-- No artifact with a source map matches the code at the address. -/
  | noSourceMap (address : CodeAddress)
  /-- There is no text for the index of a file. -/
  | unresolvedFile (file : UInt32)
  /-- The code, or the position in the trace, could not be had. -/
  | provider (failure : Failure)
  deriving DecidableEq

namespace LookupError

/-- The wording of an error. -/
def message : LookupError → String
  | malformedSourceMap ⟨segment, fault⟩ =>
    "malformed source map at segment " ++ Text.decimal segment ++ ": " ++ fault.message
  | indexOutOfRange index size =>
    "instruction index " ++ Text.decimal index ++ " is out of range for a source map of " ++
      Text.decimal size ++ " entries"
  | noSourceMap address => "no source map associated with the code at " ++ address.display
  | unresolvedFile file =>
    "unable to resolve source content for file " ++ Text.decimal file.toNat
  | provider failure => failure.message

/-- Whether there is just nothing to show. -/
def isMissingSourceMap : LookupError → Bool
  | noSourceMap _ => true
  | _ => false

/-- The causes behind an error, the outermost first. -/
def causes : LookupError → List String
  | provider failure => failure.causes
  | _ => []

end LookupError

/-- The entry of the instruction with a given index, which has to be there. -/
def SourceMap.lookup (m : SourceMap) (index : Nat) : Except LookupError Entry :=
  match m.entryAt index with
  | some e => .ok e
  | none => .error (.indexOutOfRange index m.size)

end CodeAtlas
