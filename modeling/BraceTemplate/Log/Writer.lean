import BraceTemplate.FileTree
import BraceTemplate.Log

/-!
# Writing a log

A writer keeps the entries from its level upwards, writes them to the console if it may, and appends
them to a file if it has one. A file that cannot be written is reported on the console.
-/

namespace BraceTemplate

/-- A line for the console, with the level it is written at. -/
structure ConsoleLine where
  level : LogLevel
  text : Text
deriving DecidableEq, Repr

/-- How a log is written. -/
structure LogWriter where
  level : LogLevel
  scope : Text
  console : Bool
  file : Option WrittenPath
deriving Repr

/-- What is asked of a log; the file is written only if `keepsFile` says so. -/
structure LogOptions where
  level : LogLevel
  scope : Text
  console : Bool
  keepsFile : Bool
  directory : WrittenPath
  fileName : Text
deriving Repr

namespace LogWriter

/-- The console from `info` upwards, for templates. -/
def standard : LogWriter := ⟨.info, "templates", true, none⟩

/-- The console from a level upwards, for an engine. -/
def forEngine (level : LogLevel) : LogWriter :=
  { standard with level, scope := "template-engine" }

/-- Where the log file lies unless its directory or name is given. -/
def standardDirectory : Text := "output/logs"

def standardFile : Text := "templates.log"

/-- The writer that is asked for. If it writes a file, the directory is made unless something is
there. -/
def create (o : LogOptions) (files : FileTree) : Except FileFault (LogWriter × FileTree) :=
  if o.keepsFile then do
    let files ← if files.contains o.directory then pure files else files.makeDirectory o.directory
    return (⟨o.level, o.scope, o.console, some (o.directory.join o.fileName)⟩, files)
  else .ok (⟨o.level, o.scope, o.console, none⟩, files)

/-- Appends a line to the log file; a failure becomes a line for the console. -/
def appendLine (path : WrittenPath) (line : Text) (files : FileTree) :
    List ConsoleLine × FileTree :=
  match files.append path (line ++ [CodeUnit.lineFeed]) with
  | .ok files => ([], files)
  | .error fault =>
    ([⟨.error, Text.concat ["Failed to write to log file: Error: ", fault.message]⟩], files)

/-- Writes an entry. -/
def write (w : LogWriter) (timestamp : Text) (e : LogEntry) (files : FileTree) :
    Except Fault (List ConsoleLine × FileTree) :=
  if e.level.reaches w.level then do
    let line ← e.toText timestamp w.scope
    let shown := if w.console then [⟨e.level, line⟩] else []
    match w.file with
    | none => return (shown, files)
    | some path =>
      let (failed, files) := appendLine path line files
      return (shown ++ failed, files)
  else .ok ([], files)

/-- The console lines of entries, as far as they can be written. -/
def consoleLines (w : LogWriter) (timestamp : Text) (entries : List LogEntry) : List ConsoleLine :=
  entries.flatMap fun e => match w.write timestamp e ⟨[], []⟩ with
    | .ok (lines, _) => lines
    | .error _ => []

end LogWriter

end BraceTemplate
