import CodeAtlas.Address.Written
import CodeAtlas.Config
import CodeAtlas.Json.ByteList
import CodeAtlas.Position
import CodeAtlas.SourceMap

/-!
# The JSON forms of the library's types

Each type that hosts exchange has a form as JSON, with a writer and a reader. Records are objects
with a member for each field and are also read from lists. Settings that are not given have their
default. A kind of jump is written by its name, and an address by the name of its kind and its
value. An address is read from its text as it stands there, since what may follow its bytes need not
be JSON.
-/

namespace CodeAtlas

open Json

/-! ## Source maps -/

/-- The name by which a kind of jump is written. -/
def Jump.formName : Jump → String
  | into => "In"
  | out => "Out"
  | regular => "Regular"

/-- The kind of jump with a name. -/
def Jump.ofFormName (name : String) : Option Jump :=
  [into, out, regular].find? fun jump => jump.formName = name

/-- A kind of jump, given by its name alone or as an object with no value for the name. -/
def Jump.ofJson : Json → Option Jump
  | string (some name) => ofFormName name
  | object [(some name, null)] => ofFormName name
  | _ => none

/-- A 64-bit word. -/
def readWord (value : Json) : Option UInt64 :=
  (toNat? UInt64.size value).map UInt64.ofNat

/-- The form of a word. -/
def wordForm (w : UInt64) : Json :=
  Json.ofNat w.toNat

namespace Entry

/-- The form of an entry. -/
def toJson (e : Entry) : Json :=
  ofMembers [("start", wordForm e.start), ("length", wordForm e.length),
    ("file_index", Json.ofInt e.file.toInt), ("jump", ofString e.jump.formName),
    ("modifier_depth", Json.ofNat e.depth.toNat)]

/-- Reads an entry. -/
def ofJson (value : Json) : Option Entry := do
  let fields ← fieldsOf ["start", "length", "file_index", "jump", "modifier_depth"] value
  let start ← required readWord (fields.getD 0 none)
  let length ← required readWord (fields.getD 1 none)
  let file ← required (toInt? (Nat.pow 2 31)) (fields.getD 2 none)
  let jump ← required Jump.ofJson (fields.getD 3 none)
  let depth ← required (toNat? UInt32.size) (fields.getD 4 none)
  return ⟨start, length, Int32.ofInt file, jump, UInt32.ofNat depth⟩

end Entry

namespace SourceMap

/-- The form of a source map. -/
def toJson (m : SourceMap) : Json :=
  ofMembers [("entries", array (m.entries.map Entry.toJson))]

/-- Reads a source map. -/
def ofJson (value : Json) : Option SourceMap := do
  let fields ← fieldsOf ["entries"] value
  let entries ← required (toList? Entry.ofJson) (fields.getD 0 none)
  return ⟨entries⟩

end SourceMap

/-! ## Addresses -/

namespace Address

/-- Reads an address from the text of its digits with an optional marker, or of the list of its
bytes, and gives the text behind. -/
def readJson (text : List Char) : Option (Address × List Char) :=
  match skipBlank text with
  | '[' :: rest =>
    match h : readBytes 20 rest with
    | some (bytes, rest) =>
      (endBytes rest).map fun rest => (⟨bytes, length_of_readBytes h⟩, rest)
    | none => none
  | '"' :: rest => do
    let (digits, rest) ← readString rest
    let address ← (ofHexText (← digits).toList).toOption
    return (address, rest)
  | _ => none

/-- The form of an address: its digits in lower case behind the marker. -/
def toJson (address : Address) : Json :=
  ofString (String.ofList ('0' :: 'x' :: address.hexDigits))

end Address

namespace CodeAddress

/-- The form of a code address. -/
def toJson : CodeAddress → Json
  | deployed address => ofMembers [("Deployed", address.toJson)]
  | creation step => ofMembers [("Creation", wordForm step)]

/-- Reads a code address of the kind with a name, and gives the text behind. -/
def readKind (name : String) (text : List Char) : Option (CodeAddress × List Char) :=
  match name with
  | "Deployed" => (Address.readJson text).map fun (address, rest) => (deployed address, rest)
  | "Creation" => do
    let (value, rest) ← readNumber (skipBlank text)
    return (creation (← readWord value), rest)
  | _ => none

/-- Reads a code address. -/
def ofJsonText (text : String) : Option CodeAddress := do
  let (name, rest) ← readString (← behind '"' (← behind '{' text.toList))
  let (address, rest) ← readKind (← name) (← behind ':' rest)
  let rest ← behind '}' rest
  if skipBlank rest = [] then return address else none

end CodeAddress

/-! ## Settings -/

namespace MatchPolicy

/-- The form of a policy. -/
def toJson (policy : MatchPolicy) : Json :=
  ofMembers ((settings.zip policy.values).map fun (name, value) => (name, bool value))

/-- A setting that may be left out. -/
def readSetting : Option Json → Option (Option Bool)
  | none => some none
  | some value => (toBool? value).map some

/-- Reads a policy. -/
def ofJson (value : Json) : Option MatchPolicy := do
  let fields ← fieldsOf settings value
  let given ← fields.mapM readSetting
  return ofValues given

end MatchPolicy

namespace Config

/-- The form of the settings of a resolver. -/
def toJson (config : Config) : Json :=
  ofMembers [(policyName, config.policy.toJson)]

/-- Reads the settings of a resolver. -/
def ofJson (value : Json) : Option Config := do
  let fields ← fieldsOf [policyName] value
  let policy ← defaulted {} MatchPolicy.ofJson (fields.getD 0 none)
  return ⟨policy⟩

end Config

/-! ## Positions -/

namespace RawLocation

/-- The form of a range. -/
def toJson (location : RawLocation) : Json :=
  ofMembers [("start", wordForm location.start), ("length", wordForm location.length)]

/-- Reads a range. -/
def ofJson (value : Json) : Option RawLocation := do
  let fields ← fieldsOf ["start", "length"] value
  let start ← required readWord (fields.getD 0 none)
  let length ← required readWord (fields.getD 1 none)
  return ⟨start, length⟩

end RawLocation

namespace LineColumn

/-- The form of a line and column. -/
def toJson (position : LineColumn) : Json :=
  ofMembers [("line", Json.ofNat position.line), ("column", Json.ofNat position.column)]

/-- Reads a line and column, both 64-bit words. -/
def ofJson (value : Json) : Option LineColumn := do
  let fields ← fieldsOf ["line", "column"] value
  let line ← required (toNat? UInt64.size) (fields.getD 0 none)
  let column ← required (toNat? UInt64.size) (fields.getD 1 none)
  return ⟨line, column⟩

end LineColumn

namespace LineColumnRange

/-- The form of the two ends of a range. -/
def toJson (range : LineColumnRange) : Json :=
  ofMembers [("start", range.start.toJson), ("end", range.stop.toJson)]

/-- Reads the two ends of a range. -/
def ofJson (value : Json) : Option LineColumnRange := do
  let fields ← fieldsOf ["start", "end"] value
  let start ← required LineColumn.ofJson (fields.getD 0 none)
  let stop ← required LineColumn.ofJson (fields.getD 1 none)
  return ⟨start, stop⟩

end LineColumnRange

/-! ## All types with a form -/

/-- The types that have a form. -/
inductive Form
  /-- Kinds of jumps. -/
  | jump
  /-- Entries of source maps. -/
  | entry
  /-- Source maps. -/
  | sourceMap
  /-- Code addresses. -/
  | address
  /-- Policies. -/
  | policy
  /-- Settings of a resolver. -/
  | config
  /-- Ranges of bytes. -/
  | location
  /-- Lines and columns. -/
  | position
  /-- Ranges of lines and columns. -/
  | range
  deriving DecidableEq, Repr

/-- Reads a value of a type from JSON text and writes it back. -/
def Form.normalize (form : Form) (text : String) : Option Json :=
  match form with
  | .jump => ((ofText text).bind Jump.ofJson).map fun jump => ofString jump.formName
  | .entry => ((ofText text).bind Entry.ofJson).map Entry.toJson
  | .sourceMap => ((ofText text).bind SourceMap.ofJson).map SourceMap.toJson
  | .address => (CodeAddress.ofJsonText text).map CodeAddress.toJson
  | .policy => ((ofText text).bind MatchPolicy.ofJson).map MatchPolicy.toJson
  | .config => ((ofText text).bind Config.ofJson).map Config.toJson
  | .location => ((ofText text).bind RawLocation.ofJson).map RawLocation.toJson
  | .position => ((ofText text).bind LineColumn.ofJson).map LineColumn.toJson
  | .range => ((ofText text).bind LineColumnRange.ofJson).map LineColumnRange.toJson

end CodeAtlas
