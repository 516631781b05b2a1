import CodeAtlas.Config
import CodeAtlas.FileTree
import CodeAtlas.Log
import CodeAtlas.Text.Hex
import CodeAtlas.Text.Quoted

/-!
# Configuration files

Settings are loaded from a file and saved to one. A file that does not exist stands for the default
settings. What is there but is no file with a text in UTF-8 cannot be read, and what is no TOML
document with these settings is refused.
-/

namespace CodeAtlas.Config

/-- Why settings cannot be had or kept. -/
inductive Fault
  /-- The text is no document with settings. -/
  | parse
  /-- There is no text of that name. -/
  | read (name : String)
  /-- There can be no file of that name. -/
  | write (name : String)
  deriving DecidableEq, Repr

/-- A file name as messages show it. -/
def shown (name : String) : String :=
  Text.quoted name.toList

/-- The wording of a fault. -/
def Fault.message : Fault → String
  | .parse => "Failed to parse resolver config as TOML"
  | .read name => "Failed to read config file: " ++ shown name
  | .write name => "Failed to write config file: " ++ shown name

/-- The settings in a text. -/
def parse (text : String) : Except Fault Config :=
  match ofToml text with
  | some config => .ok config
  | none => .error .parse

/-- The text of bytes in UTF-8. -/
def textOf (bytes : List UInt8) : Option String :=
  String.fromUTF8? ⟨bytes.toArray⟩

/-- A report without values that may help to find faults. -/
def debugRecord (message : String) : Log.Record :=
  { level := .debug, message }

/-- Loads settings from the file of the given name. -/
def load (tree : FileTree (List UInt8)) (name : String) : Except Fault Config × List Log.Record :=
  match tree.find? name with
  | none =>
    (.ok {}, [debugRecord ("Config file " ++ shown name ++ " not found, using defaults")])
  | some .directory => (.error (.read name), [])
  | some (.file bytes) =>
    match textOf bytes with
    | none => (.error (.read name), [])
    | some text =>
      match parse text with
      | .error fault => (.error fault, [])
      | .ok config =>
        (.ok config, [debugRecord ("Loaded resolver configuration from " ++ shown name)])

/-- Saves settings to the file of the given name. -/
def save (tree : FileTree (List UInt8)) (name : String) (config : Config) :
    Except Fault (FileTree (List UInt8)) × List Log.Record :=
  match tree.write name (Text.utf8 config.toToml.toList) with
  | .error _ => (.error (.write name), [])
  | .ok tree =>
    (.ok tree, [debugRecord ("Saved resolver configuration to " ++ shown name)])

end CodeAtlas.Config
