import CodeAtlas.Artifact
import CodeAtlas.Json.Number
import CodeAtlas.Json.Record

/-!
# Reading compiled artifacts

The output of the compiler is JSON. These readers take what the library needs of it and pass over
the rest. They refuse values of the wrong kind, with one exception: the fields of deployed code
stand beside its immutable references in one object, and where these fields cannot be read, there is
deployed code without bytecode. But everything beside the references is taken up before it is read.
A number that takes two words cannot be taken up, one that is only its literal becomes a record of
it, and a negative zero becomes zero.
-/

namespace CodeAtlas.Artifact

open Json

/-- The range given by a start and a length, both 32-bit words. -/
def readRange (value : Json) : Option CodeRange := do
  let fields ← fieldsOf ["start", "length"] value
  let start ← required (toNat? UInt32.size) (fields.getD 0 none)
  let length ← required (toNat? UInt32.size) (fields.getD 1 none)
  return Offsets.range ⟨UInt32.ofNat start, UInt32.ofNat length⟩

/-- The members of an object in the order of their names, each read. -/
def readNamed {α : Type} (read : Json → Option α) : Json → Option (OrderedMap String α id)
  | object members => do
    let pairs ← members.mapM fun (name, value) => do
      let name ← name
      let value ← read value
      return (name, value)
    return OrderedMap.ofList pairs
  | _ => none

/-- Ranges by name, one after the other in the order of the names. -/
def readRanges (value : Json) : Option (List CodeRange) := do
  let named ← readNamed (toList? readRange) value
  return named.entries.flatMap (·.2)

/-- Ranges by file and library, one after the other in the order of both. -/
def readLinkReferences (value : Json) : Option (List CodeRange) := do
  let files ← readNamed readRanges value
  return files.entries.flatMap (·.2)

/-- A generated source. -/
def readGenerated (value : Json) : Option GeneratedSource := do
  let fields ← fieldsOf ["ast", "contents", "id", "language", "name"] value
  let ast ← fields.getD 0 none
  let contents ← required toText? (fields.getD 1 none)
  let id ← required (toNat? UInt32.size) (fields.getD 2 none)
  let language ← required toText? (fields.getD 3 none)
  let name ← required toText? (fields.getD 4 none)
  return { id := UInt32.ofNat id, name, language, contents, ast := ast.settled }

/-- The code of a contract. -/
def readObject (value : Json) : Option CodeObject :=
  (toText? value).map .ofText

/-- Whether a value is a number that is taken up as a record. -/
def isRecordOfLiteral : Json → Bool
  | number literal => isOnlyLiteral literal
  | _ => false

/-- What the compiler says about a function to debuggers, of which nothing is kept. All of it may be
missing, so that any record does. -/
def readDebugData (isTakenUp : Bool) (value : Json) : Option Unit :=
  if isTakenUp && isRecordOfLiteral value then some ()
  else do
    let fields ← fieldsOf ["entryPoint", "id", "parameterSlots", "returnSlots"] value
    let _ ← fields.mapM (defaulted none (nullable (toNat? UInt32.size)))
    return ()

/-- The fields of bytecode, in order. -/
def bytecodeFields : List String :=
  ["functionDebugData", "object", "opcodes", "sourceMap", "generatedSources", "linkReferences"]

/-- The output of the compiler for one piece of code, which may have been taken up before. -/
def readBytecode (isTakenUp : Bool) (value : Json) : Option Bytecode := do
  let fields ← fieldsOf bytecodeFields value
  let _ ← defaulted .empty (readNamed (readDebugData isTakenUp)) (fields.getD 0 none)
  let object ← required readObject (fields.getD 1 none)
  let _ ← defaulted none (nullable toText?) (fields.getD 2 none)
  let sourceMap ← defaulted none (nullable toText?) (fields.getD 3 none)
  let generated ← defaulted [] (toList? readGenerated) (fields.getD 4 none)
  let linkReferences ← defaulted [] readLinkReferences (fields.getD 5 none)
  return { object, sourceMap, generated, linkReferences }

/-- The name of the immutable references among the fields of deployed code. -/
def immutablesName : String := "immutableReferences"

/-- Deployed code. Since its fields stand beside others, it is no list. -/
def readDeployed : Json → Option DeployedCode
  | object members =>
    let others := members.filter fun (name, _) => name ≠ some immutablesName
    if anyMemberHasLongNumber others then none
    else do
      let immutables ← defaulted [] readRanges (find? immutablesName (object members))
      return { bytecode := readBytecode true (object others).settled, immutables }
  | _ => none

/-- The fields of the output for the machine, in order. -/
def machineFields : List String :=
  ["assembly", "legacyAssembly", "bytecode", "deployedBytecode", "methodIdentifiers",
    "gasEstimates"]

/-- The output of the compiler for the machine. -/
def readMachine (value : Json) : Option Contract := do
  let fields ← fieldsOf machineFields value
  let _ ← defaulted none (nullable toText?) (fields.getD 0 none)
  let _ ← defaulted .empty (readNamed toText?) (fields.getD 4 none)
  let creation ← defaulted none (nullable (readBytecode false)) (fields.getD 2 none)
  let deployed ← defaulted none (nullable readDeployed) (fields.getD 3 none)
  return ⟨creation, deployed⟩

/-- The fields of a compiled contract, in order. -/
def contractFields : List String :=
  ["abi", "metadata", "userdoc", "devdoc", "ir", "storageLayout", "transientStorageLayout", "evm",
    "ewasm", "irOptimized", "irOptimizedAst"]

/-- A compiled contract. As a list it has at least its first field. -/
def readContract (value : Json) : Option Contract := do
  let fields ← fieldsOf contractFields value
  match value with
  | array [] => none
  | _ =>
    let machine ← defaulted none (nullable readMachine) (fields.getD 7 none)
    return machine.getD ⟨none, none⟩

end CodeAtlas.Artifact
