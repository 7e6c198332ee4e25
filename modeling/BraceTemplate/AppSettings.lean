import BraceTemplate.Environment
import BraceTemplate.Log

/-!
# Application settings

What the environment says about the program as a whole. Settings are read as they are; whether their
values are known is checked apart.
-/

namespace BraceTemplate

/-- The settings of the program. -/
structure AppSettings where
  environment : Text
  debug : Bool
  logLevel : Text
  name : Text
deriving DecidableEq, Repr

namespace AppSettings

/-- The environments there are. -/
def environments : List Text :=
  ["development", "production", "test"]

/-- The settings that the environment variables give. -/
def read (env : Environment) : Except SettingError AppSettings := do
  let debug ← env.bool "DEBUG" false
  return {
    environment := env.text "NODE_ENV" "development"
    debug
    logLevel := env.text "LOG_LEVEL" "info"
    name := env.text "APP_NAME" "prompt-template-engine" }

/-- Whether environment and level are known ones. -/
def check (s : AppSettings) : Except SettingError Unit :=
  if !environments.contains s.environment then
    .error (.unknownChoice "NODE_ENV" s.environment environments)
  else if (LogLevel.ofWord? s.logLevel).isNone then
    .error (.unknownChoice "LOG_LEVEL" s.logLevel (LogLevel.all.map LogLevel.word))
  else .ok ()

/-- The level from which messages are written; an unknown word stands for `info`. -/
def level (s : AppSettings) : LogLevel :=
  (LogLevel.ofWord? s.logLevel).getD .info

end AppSettings

end BraceTemplate
