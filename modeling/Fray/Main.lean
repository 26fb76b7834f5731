import Fray.Simulation

/-!
# The command line

Runs the simulation that a settings file describes and writes its log, one
record on a line. The content root is taken from the environment. Only this
module reads files.
-/
namespace Fray.CommandLine

/-- The environment variable with the root folder of content. -/
def rootVariable : String := "SKIRMISH_CONTENT_DIR"

/-- The entry at a path, if it can be read. -/
def lookUp (path : String) : IO (Option FileItem) := do
  let place := (← IO.currentDir) / path
  if path.isEmpty || !(← place.pathExists) then return none
  if ← place.isDir then
    let entries ← place.readDir
    let items ← entries.toList.mapM fun entry => do
      return FolderItem.mk entry.fileName (← entry.path.isDir)
    return some (.folder items)
  try return some (.text (← IO.FS.readFile place))
  catch _ => return some .bytes

/-- The entries at some paths, as far as they can be read. -/
def lookUpAll (paths : List String) : IO (List (String × FileItem)) := do
  let mut found := []
  for path in paths do
    if let some item ← lookUp path then found := (path, item) :: found
  return found

/-- The files that have been looked up. -/
def filesOf (entries : List (String × FileItem)) : Files := ⟨fun path => entries.lookup path⟩

/-- Paths of the definitions in the folders among some entries. -/
def definitionPaths (entries : List (String × FileItem)) : List String :=
  entries.flatMap fun entry =>
    match entry.2 with
    | .folder items =>
      (Files.sortedNames Content.extension items).map (Files.join entry.1)
    | _ => []

def contentPaths (settings : Settings) : List String :=
  [settings.content.conditions, settings.content.weapons, settings.content.explosives].filterMap id

/-- Read everything that a run with some arguments looks at. -/
def invocation (arguments : List String) : IO Invocation := do
  let root ← IO.getEnv rootVariable
  let seed := (← IO.getRandomBytes 8).foldl (fun seed byte => seed * 256 + byte.toUInt64) 0
  let first ← lookUpAll [arguments.head?.getD usualSettings]
  let start : Invocation := ⟨filesOf first, arguments, root, seed⟩
  match start.settings with
  | .error _ => return start
  | .ok settings =>
    let folders ← lookUpAll (contentPaths settings)
    let definitions ← lookUpAll (definitionPaths folders)
    return { start with files := filesOf (first ++ folders ++ definitions) }

/-! ### Output -/

/-- A record on one line for people. -/
def prettyLine (record : LogRecord) : String :=
  let fields := record.fields.map fun field => " " ++ field.1 ++ "=" ++ field.2.render
  record.severity.name ++ " " ++ record.message ++ String.join fields

def line (format : LogFormat) (record : LogRecord) : String :=
  match format with
  | .pretty => prettyLine record
  | .json => record.toJson.render

/-- What is written about the fault that ended a run. -/
def faultText : SettingsFault → String
  | .unreadable => "failed to read config file"
  | .malformed => "failed to parse config YAML"
  | .content (.unreadable path) => "failed to load content: cannot read " ++ path
  | .content (.malformed path) => "failed to load content: cannot parse " ++ path
  | .content (.refused fault) => "failed to load content: " ++ fault.message
  | .unusable cause => cause.message

end Fray.CommandLine

open Fray in
def main (arguments : List String) : IO UInt32 := do
  let invocation ← CommandLine.invocation arguments
  let format := match invocation.settings with
    | .ok settings => settings.logging.format
    | .error _ => .pretty
  let report := invocation.report
  for record in report.records do
    IO.println (CommandLine.line format record)
  if let some fault := report.fault then IO.eprintln ("Error: " ++ CommandLine.faultText fault)
  return report.exitCode.toUInt32
