import BraceTemplate.Template.Tag
import BraceTemplate.Template.Token

/-!
# Diagnostics

What is wrong with the structure of a template: braces without a partner, and block tags without one.
A closing tag fits only the innermost open block. Nothing is evaluated.
-/

namespace BraceTemplate

/-- A structural problem. -/
inductive Diagnostic where
  | unclosedBrace (position : Position)
  | unopenedBrace (position : Position)
  /-- A closing tag with no open block around it. -/
  | strayClose (kind : BlockKind) (position : Position)
  /-- A closing tag inside a block of the other kind. -/
  | crossedClose (kind : BlockKind) (position : Position) (inner : BlockKind) (opened : Position)
  /-- A block that is never closed. -/
  | unclosedBlock (kind : BlockKind) (position : Position)
deriving DecidableEq, Repr

namespace Diagnostic

/-- A place in words. -/
def place (p : Position) : Text :=
  Text.concat ["line ", Text.ofNat p.line, ", column ", Text.ofNat p.column]

/-- A word as a tag. -/
abbrev inBraces (word : Text) : Text :=
  tagSource word

/-- The message of a diagnostic. -/
def message : Diagnostic → Text
  | unclosedBrace p =>
    Text.concat ["Unmatched opening brace \"", [CodeUnit.openBrace], "\" at ", place p,
      ": no closing \"", [CodeUnit.closeBrace], "\" before end of template"]
  | unopenedBrace p =>
    Text.concat ["Unmatched closing brace \"", [CodeUnit.closeBrace], "\" at ", place p,
      ": no opening \"", [CodeUnit.openBrace], "\""]
  | strayClose kind p =>
    Text.concat ["Unmatched ", inBraces kind.closeWord, " at ", place p, ": no open ",
      inBraces kind.openWord, " block"]
  | crossedClose kind p inner opened =>
    Text.concat ["Unmatched ", inBraces kind.closeWord, " at ", place p, ": expected ",
      inBraces inner.closeWord, " to close ", inBraces inner.openWord, " opened at ", place opened]
  | unclosedBlock kind p =>
    Text.concat ["Unmatched ", inBraces kind.openWord, " at ", place p, ": missing ",
      inBraces kind.closeWord]

/-- The diagnostic of a brace. -/
def ofDefect (d : BraceDefect) : Diagnostic :=
  match d.kind with
  | .unclosed => unclosedBrace d.position
  | .unopened => unopenedBrace d.position

/-- The blocks that are open, from the inside out, and what was found so far, latest first. -/
structure Matching where
  blocks : List (BlockKind × Position)
  found : List Diagnostic

namespace Matching

/-- Takes in one token. -/
def step (m : Matching) (token : Token) : Matching :=
  match token with
  | .text .. => m
  | .tag body p =>
    match Tag.keyword? body with
    | none => m
    | some (.opens kind) => { m with blocks := (kind, p) :: m.blocks }
    | some (.closes kind) =>
      match m.blocks with
      | [] => { m with found := strayClose kind p :: m.found }
      | (inner, opened) :: outer =>
        if inner = kind then { m with blocks := outer }
        else { m with found := crossedClose kind p inner opened :: m.found }

end Matching

/-- The diagnostics of the block tags: closing tags in source order, then the blocks left open, the
outermost first. -/
def ofBlocks (tokens : List Token) : List Diagnostic :=
  let m := tokens.foldl Matching.step ⟨[], []⟩
  m.found.reverse ++ (m.blocks.reverse.map fun (kind, p) => unclosedBlock kind p)

/-- The diagnostics of a source: those of its braces, then those of its block tags. -/
def ofSource (source : Text) : List Diagnostic :=
  let t := Tokens.ofSource source
  t.defects.map ofDefect ++ ofBlocks t.tokens

end Diagnostic

/-- The messages of all that is wrong with the structure of a source. -/
def validate (source : Text) : List Text :=
  (Diagnostic.ofSource source).map Diagnostic.message

end BraceTemplate
