import BraceTemplate.AppSettings
import BraceTemplate.Command
import BraceTemplate.Log.Writer

/-!
# The program

The whole program: settings, arguments, an engine as the environment configures it, and one command.
Its result is the exit code with the lines of both streams. The only state that functions see is the
time.

A file beside the program may set variables. Its text is read by a reader that the program is given: all
that is known of it is that it finds names with their values in a text.
-/

namespace BraceTemplate

namespace Environment

/-- Adds the variables that are not there yet. -/
def withDefaults (env defaults : Environment) : Environment :=
  env ++ defaults.filter fun e => !Mapping.has env e.1

end Environment

namespace Program

/-- The text that explains the options. -/
def help : Text :=
  Text.join "\n" ["",
    "Usage: render-template [options]",
    "",
    "Options:",
    "  --template <file>   Template file to read",
    "  --inline <text>     Template text given directly",
    "  --context <file>    JSON context file",
    "  --validate          Report structural problems instead of rendering",
    "  --variables         List referenced variable names instead of rendering",
    "  --json              Output as JSON",
    "  --no-color          Disable ANSI colors",
    "  -h, --help          Show this help message",
    "",
    "Exit codes:",
    "  0 - Success",
    "  1 - Error (bad arguments, unreadable files, invalid context)",
    "  2 - Validation found structural problems",
    ""]

/-- The exit code of a failure. -/
def failureCode : Nat := 1

/-- The result of a failure. -/
def failure (message : Text) : CommandResult :=
  ⟨failureCode, [], [Text.concat ["Error: ", message]]⟩

/-- The lines of one stream: entries up to `info` go to the output, more urgent ones to the errors. -/
def streamLines (urgent : Bool) (lines : List ConsoleLine) : List Text :=
  (lines.filter fun line => line.level.reaches .warn == urgent).map ConsoleLine.text

/-- What stands on the error stream about a result. -/
def remarks (c : Command) (r : CommandResult) : List Text :=
  if !r.errors.isEmpty then "Template has structural problems:" :: r.errors
  else if c.mode = .validate && !c.json then ["OK"]
  else []

/-- Runs a command with an engine as the environment configures it. -/
def runCommand (c : Command) (env : Environment) (level : LogLevel) (now : Date)
    (timestamp : Text) : CommandResult :=
  match EngineConfig.loadEnvironment env with
  | .error e => failure e.message
  | .ok config =>
    let engine := Engine.create config (fun date : Date => date) .empty
    let done := c.run engine now
    let lines := (LogWriter.forEngine level).consoleLines timestamp done.log
    let result := match done.answer with
      | .ok r => { r with errors := remarks c r }
      | .error fault => failure fault.message
    ⟨result.exitCode, streamLines false lines ++ result.output,
      streamLines true lines ++ result.errors⟩

/-- The file that sets variables. -/
def variablesFile (base : Location) : Location :=
  base ++ [Text.ofString ".env"]

/-- The environment together with what a reader finds in the file of variables besides. -/
def surroundings (reader : Text → Environment) (env : Environment) (files : FileTree)
    (base : Location) : Environment :=
  match files.state (variablesFile base) with
  | .file text => env.withDefaults (reader text)
  | _ => env

/-- Runs the program with its arguments. -/
def run (reader : Text → Environment) (arguments : List Text) (env : Environment)
    (files : FileTree) (base : Location) (now : Date) (timestamp : Text) : CommandResult :=
  let env := surroundings reader env files base
  let settings := do
    let settings ← AppSettings.read env
    settings.check
    return settings
  match settings with
  | .error e => failure e.message
  | .ok settings =>
    match Command.ofArguments arguments files base with
    | .error e => failure e.message
    | .ok none => .success [help]
    | .ok (some c) => runCommand c env settings.level now timestamp

end Program

end BraceTemplate
