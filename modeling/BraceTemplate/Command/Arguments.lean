import BraceTemplate.Text

/-!
# Command line arguments

Options start with a dash, or are groups of letters after one. Three options take a text, after an
equals sign or as the next argument; the others are switches. Nothing else is allowed. Of an option
that is repeated the last one counts, and of several mistakes the first.
-/

namespace BraceTemplate

/-- The options of the command. -/
inductive OptionName where
  | template
  | inline
  | context
  | validate
  | names
  | json
  | noColor
  | help
deriving DecidableEq, Repr

namespace OptionName

def all : List OptionName :=
  [template, inline, context, validate, names, json, noColor, help]

def word : OptionName → Text
  | template => "template"
  | inline => "inline"
  | context => "context"
  | validate => "validate"
  | names => "variables"
  | json => "json"
  | noColor => "no-color"
  | help => "help"

/-- The option of a word. -/
def ofWord? (t : Text) : Option OptionName :=
  all.find? fun o => o.word = t

/-- The option of a single letter. -/
def ofLetter? (u : CodeUnit) : Option OptionName :=
  if u = CodeUnit.ofChar 'h' then some help else none

/-- Whether the option takes a text. -/
def takesText : OptionName → Bool
  | template | inline | context => true
  | _ => false

/-- The option as messages name it. -/
def title (o : OptionName) : Text :=
  let long := Text.concat ["--", o.word]
  if o = help then Text.concat ["-h, ", long] else long

end OptionName

/-- A mistake in the arguments. -/
inductive ArgumentError where
  | unknownOption (written : Text)
  | missingText (o : OptionName)
  | unwantedText (o : OptionName)
  /-- The text of an option looks like an option itself. -/
  | ambiguousText (o : OptionName)
  | unexpectedArgument (argument : Text)
deriving DecidableEq, Repr

namespace ArgumentError

/-- The code of a mistake. -/
def code : ArgumentError → Text
  | unknownOption _ => "ERR_PARSE_ARGS_UNKNOWN_OPTION"
  | missingText _ | unwantedText _ | ambiguousText _ => "ERR_PARSE_ARGS_INVALID_OPTION_VALUE"
  | unexpectedArgument _ => "ERR_PARSE_ARGS_UNEXPECTED_POSITIONAL"

def message : ArgumentError → Text
  | unknownOption written => Text.concat ["Unknown option '", written, "'"]
  | missingText o => Text.concat ["Option '", o.title, " <value>' argument missing"]
  | unwantedText o => Text.concat ["Option '", o.title, "' does not take an argument"]
  | ambiguousText o =>
    let long := Text.concat ["--", o.word]
    Text.concat ["Option '", long, "' argument is ambiguous.\nDid you forget to specify the option ",
      "argument for '", long, "'?\nTo specify an option argument starting with a dash use '", long,
      "=-XYZ'."]
  | unexpectedArgument argument => Text.concat ["Unexpected argument '", argument,
      "'. This command does not take positional arguments"]

end ArgumentError

/-- One argument, read. -/
inductive ArgumentToken where
  /-- An option as it is written, its name, and its text; `attached` if both are one argument. -/
  | option (written name : Text) (text : Option Text) (attached : Bool)
  | letter (u : CodeUnit)
  | other (argument : Text)
deriving DecidableEq, Repr

namespace ArgumentToken

@[match_pattern] abbrev dash : CodeUnit := 0x2D

abbrev equalsSign : CodeUnit := 0x3D

/-- Whether the option of this word takes a text. -/
def wantsText (name : Text) : Bool :=
  match OptionName.ofWord? name with
  | some o => o.takesText
  | none => false

/-- A long option cut at its first equals sign, if there is one behind its first unit. -/
def attached? (option : Text) : Option (Text × Text) :=
  if (option.drop 1).contains equalsSign then
    some (option.takeWhile (· != equalsSign), (option.dropWhile (· != equalsSign)).drop 1)
  else none

/-- The tokens of arguments. After two dashes alone, and after a dash inside a group of letters,
nothing is an option. -/
def all : List Text → List ArgumentToken
  | [] => []
  | argument :: rest =>
    match argument with
    | [dash, dash] => rest.map other
    | dash :: dash :: name =>
      match attached? name with
      | some (name, text) =>
        option (Text.concat ["--", name]) name (some text) true :: all rest
      | none =>
        if wantsText name then
          match rest with
          | text :: others => option argument name (some text) false :: all others
          | [] => [option argument name none false]
        else option argument name none false :: all rest
    | dash :: first :: letters =>
      let before := (first :: letters).takeWhile (· != dash)
      let after := (first :: letters).dropWhile (· != dash)
      if after.isEmpty then before.map letter ++ all rest
      else before.map letter ++ (after.drop 1).map (fun u => other [dash, u]) ++ rest.map other
    | _ => other argument :: all rest

end ArgumentToken

/-- What the arguments choose. -/
structure Arguments where
  template : Option Text
  inlineText : Option Text
  context : Option Text
  validate : Bool
  listNames : Bool
  json : Bool
  noColor : Bool
  help : Bool
deriving DecidableEq, Repr

namespace Arguments

/-- Nothing chosen. -/
def empty : Arguments := ⟨none, none, none, false, false, false, false, false⟩

/-- Chooses an option with its text. -/
def choose (a : Arguments) (o : OptionName) (text : Option Text) : Arguments :=
  match o with
  | .template => { a with template := text }
  | .inline => { a with inlineText := text }
  | .context => { a with context := text }
  | .validate => { a with validate := true }
  | .names => { a with listNames := true }
  | .json => { a with json := true }
  | .noColor => { a with noColor := true }
  | .help => { a with help := true }

/-- Whether a text by itself looks like an option. -/
def looksLikeOption : Text → Bool
  | u :: _ :: _ => u = CodeUnit.minus
  | _ => false

/-- Takes in one token. -/
def step (a : Arguments) (token : ArgumentToken) : Except ArgumentError Arguments :=
  match token with
  | .other argument => .error (.unexpectedArgument argument)
  | .letter u => match OptionName.ofLetter? u with
    | some o => .ok (a.choose o none)
    | none => .error (.unknownOption [CodeUnit.minus, u])
  | .option written name text attached =>
    match OptionName.ofWord? name with
    | none => .error (.unknownOption written)
    | some o =>
      match o.takesText, text with
      | true, none => .error (.missingText o)
      | false, some _ => .error (.unwantedText o)
      | true, some t =>
        if !attached && looksLikeOption t then .error (.ambiguousText o) else .ok (a.choose o text)
      | false, none => .ok (a.choose o none)

/-- What the arguments choose, or the first mistake. -/
def read (arguments : List Text) : Except ArgumentError Arguments :=
  (ArgumentToken.all arguments).foldlM step empty

end Arguments

end BraceTemplate
