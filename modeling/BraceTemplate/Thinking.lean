import BraceTemplate.StoredPrompt

/-!
# Thinking prompts

Settings for a text that asks for reasoning before an answer: an opening sentence for style and depth,
perhaps how to lay out the reasoning, and perhaps to say how sure the answer is.
-/

namespace BraceTemplate.Thinking

/-- The way of reasoning. -/
inductive Style where
  | stepByStep
  | prosCons
  | analytical
  | creative
deriving DecidableEq, Repr

/-- How far reasoning goes. -/
inductive Depth where
  | shallow
  | medium
  | deep
deriving DecidableEq, Repr

/-- How reasoning is laid out. -/
inductive Format where
  | structured
  | natural
  | bulletPoints
deriving DecidableEq, Repr

def styles : List (Text × Style) :=
  [("step_by_step", .stepByStep), ("pros_cons", .prosCons), ("analytical", .analytical),
   ("creative", .creative)]

def depths : List (Text × Depth) :=
  [("shallow", .shallow), ("medium", .medium), ("deep", .deep)]

def formats : List (Text × Format) :=
  [("structured", .structured), ("natural", .natural), ("bullet_points", .bulletPoints)]

/-- The word for one of several choices. -/
def wordOf {α : Type} [DecidableEq α] (choices : List (Text × α)) (a : α) : Text :=
  ((choices.find? fun c => c.2 = a).map Prod.fst).getD []

/-- The settings of a thinking prompt. -/
structure Settings where
  style : Style
  depth : Depth
  showReasoning : Bool
  format : Format
  confidence : Bool
deriving DecidableEq, Repr

namespace Settings

def schema : Schema Settings :=
  Fields.exactRecord (mk
    <$> .field "style" (.choice styles)
    <*> .field "depth" (.choice depths)
    <*> .field "showReasoning" (.withDefault .bool true)
    <*> .field "reasoningFormat" (.withDefault (.choice formats) .structured)
    <*> .field "confidenceScoring" (.withDefault .bool false))

/-- The settings that data describe. -/
def ofData (data : Data) : Except DefinitionError Settings :=
  (schema.check data).orElse fun issues => ⟨.thinking, issues⟩

/-- The description of settings. -/
def toValue (s : Settings) : Value :=
  .mapping
    [("style", .text (wordOf styles s.style)), ("depth", .text (wordOf depths s.depth)),
     ("showReasoning", .bool s.showReasoning),
     ("reasoningFormat", .text (wordOf formats s.format)),
     ("confidenceScoring", .bool s.confidence)]

end Settings

/-- The sentence a prompt opens with. -/
def opening : Style → Depth → Text
  | .stepByStep, .shallow => "Think through this step by step:"
  | .stepByStep, .medium =>
    "Let's approach this systematically. Think through each step carefully:"
  | .stepByStep, .deep => Text.concat ["Take a deep, methodical approach. ",
      "Break this down into clear logical steps and analyze each one thoroughly:"]
  | .prosCons, .shallow => "Consider the pros and cons:"
  | .prosCons, .medium => "Analyze the advantages and disadvantages of different approaches:"
  | .prosCons, .deep => Text.concat ["Conduct a comprehensive analysis weighing all pros and cons, ",
      "considering short-term and long-term implications:"]
  | .analytical, .shallow => "Analyze this systematically:"
  | .analytical, .medium => "Provide a structured analysis considering key factors:"
  | .analytical, .deep => Text.concat ["Perform a comprehensive analytical breakdown, ",
      "examining all relevant dimensions and their interconnections:"]
  | .creative, .shallow => "Think creatively about this:"
  | .creative, .medium => "Explore creative approaches and alternative perspectives:"
  | .creative, .deep => Text.concat ["Engage in deep creative thinking, ",
      "exploring unconventional ideas and innovative solutions:"]

/-- How to lay out the reasoning; natural reasoning needs no instruction. -/
def layout? : Format → Option Text
  | .structured => some (Text.join "\n" ["Structure your reasoning as follows:",
      "1. Initial assessment", "2. Key considerations", "3. Analysis", "4. Conclusion"])
  | .bulletPoints =>
    some "Organize your thoughts using clear bullet points for each major point."
  | .natural => none

/-- The prompt of settings: its parts with blank lines between them. -/
def Settings.prompt (s : Settings) : Text :=
  let layout := if s.showReasoning then (layout? s.format).toList else []
  let confidence : List Text :=
    if s.confidence then ["Include confidence scores (0-100%) for key conclusions."] else []
  Text.join "\n\n" (opening s.style s.depth :: (layout ++ confidence))

end BraceTemplate.Thinking
