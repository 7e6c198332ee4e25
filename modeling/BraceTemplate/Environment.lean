import BraceTemplate.Number.Numeral
import BraceTemplate.Mapping
import BraceTemplate.Text.Case

/-!
# Environment

Settings come from environment variables. A variable that is empty counts as not set.
-/

namespace BraceTemplate

/-- The values of the environment variables that are set. -/
abbrev Environment := Mapping Text

/-- Why settings are refused. -/
inductive SettingError where
  | missing (key : Text)
  | notInteger (key given : Text)
  | notBoolean (key given : Text)
  /-- The value of a setting is none of those it may have. -/
  | unknownChoice (key given : Text) (choices : List Text)
deriving DecidableEq, Repr

namespace SettingError

def message : SettingError → Text
  | missing key => Text.concat ["Missing required environment variable: ", key]
  | notInteger key given =>
    Text.concat ["Environment variable ", key, " must be a valid integer, got: ", given]
  | notBoolean key given =>
    Text.concat ["Environment variable ", key,
      " must be a boolean (true/false/1/0/yes/no), got: ", given]
  | unknownChoice key given choices =>
    Text.concat ["Invalid ", key, ": ", given, ". Must be ", Text.join ", " choices, "."]

end SettingError

namespace Environment

/-- A variable that is set and not empty. -/
def read? (env : Environment) (key : Text) : Option Text :=
  (Mapping.get? env key).filter fun value => !value.isEmpty

/-- A variable that has to be set. -/
def require (env : Environment) (key : Text) : Except SettingError Text :=
  match env.read? key with
  | some value => .ok value
  | none => .error (.missing key)

/-- A variable, or what stands for it. -/
def text (env : Environment) (key standard : Text) : Text :=
  (env.read? key).getD standard

/-- A variable as an integer: what follows the digits at its start is ignored. -/
def integer (env : Environment) (key : Text) (standard : Number) : Except SettingError Number :=
  match env.read? key with
  | none => .ok standard
  | some value => match Number.leadingInteger? value with
    | some n => .ok n
    | none => .error (.notInteger key value)

/-- A variable as a truth value, in letters of either case. -/
def bool (env : Environment) (key : Text) (standard : Bool) : Except SettingError Bool :=
  match env.read? key with
  | none => .ok standard
  | some value =>
    let word := value.lower
    if word = "true" ∨ word = "1" ∨ word = "yes" then .ok true
    else if word = "false" ∨ word = "0" ∨ word = "no" then .ok false
    else .error (.notBoolean key value)

end Environment

end BraceTemplate
