import CodeAtlas.Address.Written
import CodeAtlas.Bytecode.Candidate
import CodeAtlas.Log
import CodeAtlas.OrderedMap
import CodeAtlas.Path
import CodeAtlas.Policy

/-!
# Compiled artifacts

The output of a compilation: contracts by file and by name, each with its init code and its deployed
code. `search` looks for the first contract, in the order of paths and names, of which running code
is a form. Init code is compared with init code and deployed code with deployed code. A contract
without deployed code is abstract and takes no part in either.
-/

namespace CodeAtlas

/-- Deployed code of a contract. -/
structure DeployedCode where
  /-- The output of the compiler, which may be missing. -/
  bytecode : Option Bytecode
  /-- Where the values of immutable variables go. -/
  immutables : List CodeRange

/-- A compiled contract. -/
structure Contract where
  /-- Its init code. -/
  creation : Option Bytecode
  /-- Its deployed code. -/
  deployed : Option DeployedCode

/-- The contracts of a file by name. Names are in the order of their code points, which is the order
of their bytes in UTF-8. -/
abbrev FileContracts := OrderedMap String Contract id

/-- The contracts of a compilation by file. -/
abbrev ArtifactSet := OrderedMap Path FileContracts Path.place

/-- A contract with its file and name. -/
structure NamedContract where
  /-- The file that declares it. -/
  file : Path
  /-- Its name. -/
  name : String
  /-- The contract. -/
  contract : Contract

/-- The contracts of a compilation in the order of files and names. -/
def ArtifactSet.contracts (artifacts : ArtifactSet) : List NamedContract :=
  artifacts.entries.flatMap fun (file, contracts) =>
    contracts.entries.map fun (name, contract) => ⟨file, name, contract⟩

/-- Files and contracts of a list, in which a later item with the same file and name replaces an
earlier one. -/
def ArtifactSet.ofList (items : List (Path × String × Contract)) : ArtifactSet :=
  items.foldl (fun artifacts (file, name, contract) =>
    artifacts.insert file
      (((artifacts.get? file).getD OrderedMap.empty).insert name contract)) OrderedMap.empty

/-- The bytecode that code from an address is compared with, and its immutable ranges. -/
def Contract.relevant (contract : Contract) (address : CodeAddress) :
    Option (Bytecode × List CodeRange) := do
  let deployed ← contract.deployed
  if address.isCreation then
    let bytecode ← contract.creation
    return (bytecode, [])
  else
    let bytecode ← deployed.bytecode
    return (bytecode, deployed.immutables)

/-- The contract that was found for running code. -/
structure MatchedArtifact where
  /-- The file that declares it. -/
  file : Path
  /-- Its name. -/
  contract : String
  /-- The written source map of the code that matches. -/
  sourceMap : Option String
  /-- The sources generated for the code that matches. -/
  generated : List GeneratedSource

/-- What a search among contracts comes to. -/
structure Search where
  /-- The contracts passed over because their bytecode is no code, by file and name. -/
  undecodable : List (Path × String)
  /-- The contract found. -/
  found : Option MatchedArtifact

/-- The first contract of a list that matches the running code of an address. -/
def searchList (isMatch : Matcher) (address : CodeAddress) (running : List UInt8) :
    List NamedContract → Search
  | [] => ⟨[], none⟩
  | ⟨file, name, contract⟩ :: rest =>
    match contract.relevant address with
    | none => searchList isMatch address running rest
    | some (bytecode, immutables) =>
      match Candidate.ofBytecode bytecode immutables with
      | none =>
        let later := searchList isMatch address running rest
        { later with undecodable := (file, name) :: later.undecodable }
      | some candidate =>
        if isMatch running candidate address.isCreation then
          ⟨[], some ⟨file, name, bytecode.sourceMap, bytecode.generated⟩⟩
        else searchList isMatch address running rest

/-- The first contract of a compilation that matches the running code of an address. -/
def ArtifactSet.search (artifacts : ArtifactSet) (isMatch : Matcher) (address : CodeAddress)
    (running : List UInt8) : Search :=
  searchList isMatch address running artifacts.contracts

/-- What a search reports: the contracts passed over, and the contract found. -/
def Search.records (search : Search) (address : CodeAddress) : List Log.Record :=
  (search.undecodable.map fun (file, name) =>
    { level := .trace, message := "skipping undecodable bytecode",
      values := [("file", .text file.text), ("contract", .text name)] }) ++
  (search.found.toList.map fun matched =>
    { level := .trace, message := "bytecode matched",
      values := [("file", .text matched.file.text), ("contract", .text matched.contract),
        ("address", .text address.display)] })

end CodeAtlas
