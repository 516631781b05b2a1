import CodeAtlas.Bytecode.Candidate

/-!
# Tolerant comparison of code

Running code seldom equals the compiler's output byte for byte. Library addresses are linked in
after compilation, immutable variables are written by the constructor, the metadata differs between
builds of the same source, init code is followed by the arguments of the constructor, and a deployed
library starts by pushing its own address. A `MatchPolicy` says which of these differences do not
matter. `MatchPolicy.accepts` compares byte by byte with a mask that has `true` at the positions
where any byte will do.
-/

namespace CodeAtlas

/-- Which differences between compiled and running code do not matter. -/
structure MatchPolicy where
  /-- Any library address will do. -/
  ignoreLinkReferences : Bool := true
  /-- Any value of an immutable variable will do. -/
  ignoreImmutables : Bool := true
  /-- Any metadata of the same length will do. -/
  ignoreMetadata : Bool := true
  /-- Init code may be followed by more bytes. -/
  allowConstructorArgs : Bool := true
  /-- Any address that a library pushes first will do. -/
  libraryAddressPrefix : Bool := true
  deriving DecidableEq, Repr

/-- Decides from running code and a candidate, and from whether it is init code, if they match. -/
abbrev Matcher := List UInt8 → Candidate → Bool → Bool

/-! ## Masks -/

/-- How a library starts: it pushes twenty zero bytes and compares its own address with them. -/
def libraryStart : List UInt8 :=
  0x73 :: List.replicate addressLength 0 ++ [0x30, 0x14]

/-- Where the address stands that a library pushes first. -/
def libraryAddress : CodeRange :=
  ⟨1, 1 + addressLength⟩

/-- A mask in which the positions of a range are `true`, too. -/
def markRange (mask : List Bool) (range : CodeRange) : List Bool :=
  mask.mapIdx fun position any => any || range.covers position

/-- Whether each byte of code has the wanted value or may have any. -/
def agree : List UInt8 → List UInt8 → List Bool → Bool
  | wanted :: wants, found :: finds, any :: mask =>
    (any || wanted == found) && agree wants finds mask
  | _, _, _ => true

namespace MatchPolicy

/-- The policy for which every difference matters. -/
def exact : MatchPolicy :=
  ⟨false, false, false, false, false⟩

/-- The ranges of a candidate in which any byte of the running code will do. -/
def tolerated (policy : MatchPolicy) (candidate : Candidate) (running : List UInt8) :
    List CodeRange :=
  (if policy.ignoreLinkReferences then candidate.linkReferences else []) ++
  (if policy.ignoreImmutables then candidate.immutables else []) ++
  (if policy.ignoreMetadata then
    candidate.metadata.toList.filter (hasMetadataAt running candidate.code)
  else []) ++
  (if policy.libraryAddressPrefix && libraryStart.isPrefixOf candidate.code then [libraryAddress]
  else [])

/-- The mask of the positions at which any byte of the running code will do. -/
def mask (policy : MatchPolicy) (candidate : Candidate) (running : List UInt8) : List Bool :=
  (policy.tolerated candidate running).foldl markRange
    (List.replicate candidate.code.length false)

/-- Whether running code is a form of the candidate. A candidate without bytes has none: abstract
contracts compile to it. The running code is as long as the candidate, or longer where it is init
code and the policy allows arguments behind it. -/
def accepts (policy : MatchPolicy) : Matcher := fun running candidate isCreation =>
  !candidate.code.isEmpty && decide (candidate.code.length ≤ running.length) &&
    (decide (running.length = candidate.code.length) ||
      (isCreation && policy.allowConstructorArgs)) &&
    agree candidate.code running (policy.mask candidate running)

end MatchPolicy

end CodeAtlas
