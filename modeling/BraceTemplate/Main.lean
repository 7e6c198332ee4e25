import BraceTemplate.Program
import BraceTemplate.Text.Blank
import Std.Time.DateTime.Timestamp

/-!
# The program as a process

Gathers what the program needs, the files that its arguments name among it, and writes the lines of
its result.
-/

namespace BraceTemplate.Process

/-- The environment variables that settings are read from. -/
def variableNames : List String :=
  ["NODE_ENV", "DEBUG", "LOG_LEVEL", "APP_NAME", "TEMPLATE_CACHE_ENABLED", "TEMPLATE_CACHE_SIZE"]

/-- Those of the variables that are set. -/
def readVariables : IO Environment := do
  let found ← variableNames.mapM fun name => do
    return (← IO.getEnv name).map fun value => (Text.ofString name, Text.ofString value)
  return found.filterMap id

/-- What lies at locations: the files with their texts, and the directories. -/
def readLocations (locations : List Location) : IO FileTree := do
  let base ← IO.currentDir
  let mut files := []
  let mut directories := []
  for l in locations do
    let path := base / l.toText.toString
    if ← path.isDir then directories := l :: directories
    else if ← path.pathExists then
      files := (l, Text.ofString (← IO.FS.readFile path)) :: files
  return ⟨files, directories⟩

/-- Whether a unit may stand in the name of a variable. -/
def isNameUnit (u : CodeUnit) : Bool :=
  u.isLetter || u.isDigit || u = CodeUnit.underscore || u = CodeUnit.point || u = CodeUnit.minus

/-- The variable that a plain line sets: a name, an equals sign, and a value up to a number sign. -/
def plainVariable? (line : Text) : Option (Text × Text) :=
  let mark : CodeUnit := 0x3D
  let key := Text.trim (line.takeWhile (· != mark))
  if line.contains mark && !key.isEmpty && key.all isNameUnit then
    let value := ((line.dropWhile (· != mark)).drop 1).takeWhile (· != 0x23)
    some (key, Text.trim value)
  else none

/-- A reader of plain lines only; of a name set twice the last value counts. -/
def plainVariables (text : Text) : Environment :=
  Mapping.ofList ((Text.splitAt CodeUnit.lineFeed text).filterMap plainVariable?)

/-- The locations that arguments name. -/
def namedLocations (base : Location) (arguments : List Text) : List Location :=
  match Arguments.read arguments with
  | .ok a => (a.template.toList ++ a.context.toList).map (Location.ofText base)
  | .error _ => []

/-- The present. -/
def now : IO Date := do
  return Date.ofInstant (← Std.Time.Timestamp.now).toMillisecondsSinceUnixEpoch.val

/-- Runs the program in its surroundings. -/
def run (arguments : List Text) : IO CommandResult := do
  let base := Location.ofText [] (Text.ofString (← IO.currentDir).toString)
  let files ← readLocations (Program.variablesFile base :: namedLocations base arguments)
  let present ← now
  return Program.run plainVariables arguments (← readVariables) files base present
    ((present.map Instant.isoText).getD [])

end BraceTemplate.Process

open BraceTemplate in
/-- Runs the program and writes its result. -/
def main (arguments : List String) : IO UInt32 := do
  try
    let result ← Process.run (arguments.map Text.ofString)
    for line in result.output do
      IO.println line.toString
    for line in result.errors do
      IO.eprintln line.toString
    return result.exitCode.toUInt32
  catch e =>
    IO.eprintln ("Error: " ++ e.toString)
    return 1
