import CodeAtlas.FileTree
import CodeAtlas.Logging.Filter
import CodeAtlas.OrderedMap

/-!
# Setting up logging

A host may install one receiver of log records, and a second attempt fails. What is installed
has a filter for everything and writes to the console and, if wanted, to a file. Where it writes to
both, each has a second filter that must let a record through as well. The filters come from a text
that the environment of the host may give.

The directory and the file of a log are made before the installation is tried, so that they are
there also when it fails. They are named below a directory for temporary files, in which a file may
stand in the way of the directory of all logs. A log has a file for each day, whose name ends in
the day.
-/

namespace CodeAtlas.Logging

open Log (Level)

/-! ## What receives records -/

/-- A file to write to, with a filter of its own. -/
structure FileSink where
  /-- Where the file is. -/
  place : Place
  /-- What is written to it. -/
  filter : Filter

/-- What receives the records of a host. -/
structure Receiver where
  /-- What it takes at all. -/
  filter : Filter
  /-- What of that is written to the console. -/
  console : Option Filter
  /-- The file it writes to. -/
  file : Option FileSink

/-- What is installed in a host. -/
inductive Installed
  /-- Nothing yet. -/
  | nothing
  /-- A receiver. -/
  | receiver (receiver : Receiver)
  /-- Something else. -/
  | foreign

/-- The files of a host, and what was reported to them. -/
abbrev LogTree := FileTree (List Report)

/-- What the set-up of logging depends on and changes. -/
structure Host where
  /-- The text of the filters, if the environment gives one. -/
  filterText : Option String
  /-- The name of the field that reports the text of the filters. -/
  filterField : String
  /-- The target of what the set-up reports itself. -/
  target : String
  /-- The day. -/
  day : String
  /-- What is installed. -/
  installed : Installed
  /-- Whether the set-up for tests was called. -/
  testsReady : Bool := false
  /-- What is on the console. -/
  console : List Report := []
  /-- The files from the directory for temporary files on. -/
  tree : LogTree := .empty

/-! ## Faults and notices -/

/-- Why logging could not be set up. -/
inductive SetupFault
  /-- There is something installed. -/
  | installed
  /-- There is something installed, which the set-up for the console alone found. -/
  | simpleInstalled
  /-- The directory or the file of the log cannot be made. -/
  | log (fault : FileFault)
  deriving DecidableEq, Repr

/-- What is said about something that is installed. -/
def alreadySet : String := "a global default trace dispatcher has already been set"

/-- The wording of a fault. -/
def SetupFault.message : SetupFault → String
  | .installed => "Failed to initialize tracing subscriber: " ++ alreadySet
  | .simpleInstalled => "Failed to initialize simple logging: " ++ alreadySet
  | .log fault => fault.message

/-- What the set-up reports itself. -/
inductive Notice
  /-- The console and a file are written to. -/
  | withFile
  /-- Only the console is written to. -/
  | consoleOnly
  /-- How the environment is. -/
  | environment
  deriving DecidableEq, Repr

namespace Notice

/-- How much a notice matters. -/
def level : Notice → Level
  | withFile => .info
  | consoleOnly => .info
  | environment => .debug

/-- The wording of a notice. -/
def message : Notice → String
  | withFile => "Logging initialized with console and file output"
  | consoleOnly => "Logging initialized with console output only"
  | environment => "Environment information"

/-- The names of the fields of a notice, where `filterField` reports the text of the filters. -/
def fields (filterField : String) : Notice → List String
  | withFile => ["message", "component", "log_dir"]
  | consoleOnly => ["message", "component"]
  | environment => ["message", "component", filterField]

end Notice

/-! ## The names of logs -/

/-- The name of the directory of logs. -/
def logDirectory : String := "srcmap-logs"

/-- The name that a name stands for in a directory. A leading slash makes it stand for itself. -/
def nameIn (directory name : String) : String :=
  if name.toList.head? = some '/' then name else directory ++ "/" ++ name

/-- The name of the directory for the log of a component. -/
def directoryOf (component : String) : String :=
  nameIn logDirectory component

/-- What the name of a log ends in on a day. -/
def dayEnd (day : String) : String := "." ++ day

/-- The name of the file for the log of a component on a day. -/
def fileOf (component day : String) : String :=
  nameIn (directoryOf component) (component ++ ".log" ++ dayEnd day)

/-- A text without a text at its end. -/
def withoutEnd (ending text : String) : String :=
  if ending.toList.isSuffixOf text.toList then
    String.ofList (text.toList.take (text.length - ending.length))
  else text

/-! ## The set-up -/

namespace Host

/-- The filter of a host: that of the environment if it can be read, or else by a level. -/
def mainFilter (host : Host) (level : Level) : Filter :=
  (host.filterText.bind Filter.ofText).getD (.from level)

/-- The second filter of a host: the readable part of the environment, and errors only if there
is none. -/
def sinkFilter (host : Host) : Filter :=
  match Filter.readable (host.filterText.getD "") with
  | [] => .from .error
  | filter => filter

/-- The host with a receiver, unless there is one. -/
def install (host : Host) (receiver : Receiver) : Option Host :=
  match host.installed with
  | .nothing => some { host with installed := .receiver receiver }
  | _ => none

/-- The host with a report written wherever the filters let it through. -/
def emit (host : Host) (report : Report) : Host :=
  match host.installed with
  | .receiver receiver =>
    if receiver.filter.passes report then
      let toConsole := receiver.console.all fun filter => filter.passes report
      let host :=
        if toConsole then { host with console := host.console ++ [report] } else host
      match receiver.file with
      | some sink =>
        if sink.filter.passes report then
          { host with tree := host.tree.changeFile sink.place (· ++ [report]) }
        else host
      | none => host
    else host
  | _ => host

/-- The host with a notice written. -/
def notify (host : Host) (notice : Notice) : Host :=
  host.emit {
    target := host.target, level := notice.level, message := notice.message,
    fields := notice.fields host.filterField }

/-- The host with an empty file in place of the directory of logs. It cannot be made when the
directory is there. -/
def block (host : Host) : Host × Option SetupFault :=
  match host.tree.write logDirectory [] with
  | .ok tree => ({ host with tree }, none)
  | .error fault => (host, some (.log fault))

/-- The host with the directory for the log of a component. -/
def makeDirectory (host : Host) (component : String) : Host × Option SetupFault :=
  let (tree, fault) := host.tree.makeDirectories (directoryOf component)
  ({ host with tree }, fault.map .log)

/-- The host with the file for the log of a component, and the place of the file. Where it cannot be
made at once, the directories on the way to it are made before. -/
def makeFile (host : Host) (component : String) : Except SetupFault (Place × Host) :=
  let name := fileOf component host.day
  match host.tree.openFile name [] with
  | .ok (place, tree) => .ok (place, { host with tree })
  | .error _ =>
    let (tree, _) := host.tree.makeParents name
    match tree.openFile name [] with
    | .ok (place, tree) => .ok (place, { host with tree })
    | .error fault => .error (.log fault)

/-- Sets up logging for a component on the console and in a file. -/
def setUpWithFile (host : Host) (component : String) : Host × Option SetupFault :=
  let second := host.sinkFilter
  -- The directory and the file are made first, so that they are there even when nothing can be
  -- installed.
  match host.makeDirectory component with
  | (host, some fault) => (host, some fault)
  | (host, none) =>
    match host.makeFile component with
    | .error fault => (host, some fault)
    | .ok (place, host) =>
      match host.install ⟨host.mainFilter .info, some second, some ⟨place, second⟩⟩ with
      | none => (host, some .installed)
      | some host => ((host.notify .withFile).notify .environment, none)

/-- Sets up logging for a component on the console. -/
def setUpConsole (host : Host) : Host × Option SetupFault :=
  match host.install ⟨host.mainFilter .info, none, none⟩ with
  | none => (host, some .installed)
  | some host => ((host.notify .consoleOnly).notify .environment, none)

/-- Sets up logging for a component, with or without a file. -/
def setUp (host : Host) (component : String) (toFile : Bool) : Host × Option SetupFault :=
  if toFile then host.setUpWithFile component else host.setUpConsole

/-- The logs of a host by their names, which are given without the day. -/
def logs (host : Host) : OrderedMap String (List Report) id :=
  .ofList (host.tree.files.map fun (name, reports) =>
    (withoutEnd (dayEnd host.day) name, reports))

/-- Sets up logging on the console alone. -/
def setUpSimple (host : Host) (level : Level) : Host × Option SetupFault :=
  match host.install ⟨host.mainFilter level, none, none⟩ with
  | none => (host, some .simpleInstalled)
  | some host => (host, none)

/-- Sets up logging for tests. Only the first call does anything, and it never fails. -/
def setUpTests (host : Host) (level : Option Level) : Host :=
  if host.testsReady then host
  else ({ host with testsReady := true }.setUpSimple (level.getD .info)).1

end Host

end CodeAtlas.Logging
