import BraceTemplate.Builtin
import BraceTemplate.Environment
import BraceTemplate.Schema

/-!
# Engine configuration

How many parsed templates an engine keeps, and which functions it has. A configuration is read from
data that have to fit exactly; an engine that is given none takes one from the environment.
-/

namespace BraceTemplate

/-- Whether parsed templates are kept, and how many. -/
structure CacheSettings where
  enabled : Bool
  maxEntries : { n : Nat // 0 < n }
deriving Repr

/-- Whether there are built-in functions, and what they write. -/
structure FunctionSettings where
  builtins : Bool
  style : FunctionStyle
deriving Repr

/-- The configuration of an engine. -/
structure EngineConfig where
  cache : CacheSettings
  functions : FunctionSettings
deriving Repr

/-- What is wrong with a configuration. -/
inductive EngineConfigError where
  | invalid (issues : List Issue)
deriving Repr

namespace EngineConfigError

def issues : EngineConfigError → List Issue
  | invalid i => i

def message (e : EngineConfigError) : Text :=
  Text.concat ["Invalid engine configuration: ", Text.ofNat e.issues.length,
    " validation error(s)"]

/-- A line for every issue under a heading. -/
def format (e : EngineConfigError) : Text :=
  Text.join "\n" ("Engine configuration validation failed:" ::
    e.issues.map fun i => Text.concat ["  - ", i.toText])

end EngineConfigError

/-- Why there is no configuration. -/
inductive ConfigurationFault where
  | setting (e : SettingError)
  | config (e : EngineConfigError)
deriving Repr

namespace ConfigurationFault

def message : ConfigurationFault → Text
  | setting e => e.message
  | config e => e.message

end ConfigurationFault

namespace CacheSettings

def fields : Fields CacheSettings :=
  mk <$> .field "enabled" .bool <*> .field "maxEntries" .positive

def toValue (s : CacheSettings) : Value :=
  .mapping [("enabled", .bool s.enabled), ("maxEntries", .ofNat s.maxEntries)]

end CacheSettings

namespace FunctionSettings

def fields : Fields FunctionSettings :=
  (fun builtins bullet suffix => ⟨builtins, bullet, suffix⟩) <$> .field "builtins" .bool
    <*> .field "listBullet" .text <*> .field "truncateSuffix" .text

def toValue (s : FunctionSettings) : Value :=
  .mapping [("builtins", .bool s.builtins), ("listBullet", .text s.style.listBullet),
    ("truncateSuffix", .text s.style.truncateSuffix)]

end FunctionSettings

namespace EngineConfig

/-- The configuration that holds where nothing else is said. -/
def standard : EngineConfig where
  cache := ⟨true, ⟨256, by decide⟩⟩
  functions := ⟨true, ⟨"• ", "..."⟩⟩

def schema : Schema EngineConfig :=
  Fields.exactRecord (mk <$> .field "cache" CacheSettings.fields.exactRecord
    <*> .field "functions" FunctionSettings.fields.exactRecord)

def toValue (c : EngineConfig) : Value :=
  .mapping [("cache", c.cache.toValue), ("functions", c.functions.toValue)]

/-- The configuration that data describe. -/
def load (data : Data) : Except EngineConfigError EngineConfig :=
  (schema.check data).orElse .invalid

/-- The description of a configuration with the cache that the environment sets. -/
def ofEnvironment (env : Environment) : Except SettingError Value := do
  let enabled ← env.bool "TEMPLATE_CACHE_ENABLED" standard.cache.enabled
  let size ← env.integer "TEMPLATE_CACHE_SIZE" (.ofNat standard.cache.maxEntries)
  return .mapping [("cache", .mapping [("enabled", .bool enabled), ("maxEntries", .number size)]),
    ("functions", standard.functions.toValue)]

/-- The configuration that the environment sets. -/
def loadEnvironment (env : Environment) : Except ConfigurationFault EngineConfig :=
  match ofEnvironment env with
  | .error e => .error (.setting e)
  | .ok v => (load (.ofValue v)).mapError .config

/-- The configuration that data describe, or else the environment if they are absent. -/
def obtain (given : Data) (env : Environment) : Except ConfigurationFault EngineConfig :=
  if given.root.isPresent then (load given).mapError .config else loadEnvironment env

/-- Adds the built-in functions, if there are to be any, under the names that are free. -/
def install {σ : Type} (c : EngineConfig) (clock : Clock σ) (registry : Registry σ) : Registry σ :=
  if c.functions.builtins then registry.install (Builtin.definitions c.functions.style clock)
  else registry

end EngineConfig

end BraceTemplate
