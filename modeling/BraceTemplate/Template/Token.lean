import BraceTemplate.Text

/-!
# Tokens of a template

A template is cut into runs of plain text and tags. A tag runs from an opening brace to the brace that
closes it, so braces inside a tag nest. Two things can be wrong, and neither stops the cutting: a
closing brace outside every tag stays text, and from an opening brace that is never closed on, all is
text. The lexemes of the tokens make up the source again.
-/

namespace BraceTemplate

/-- A place in a source: the count of units before it, and its line and column from one. -/
structure Position where
  offset : Nat
  line : Nat
  column : Nat
deriving DecidableEq, Repr

namespace Position

/-- The place where a source begins. -/
def start : Position := ⟨0, 1, 1⟩

/-- The place after one unit. -/
def step (p : Position) (u : CodeUnit) : Position :=
  if u = CodeUnit.lineFeed then ⟨p.offset + 1, p.line + 1, 1⟩
  else ⟨p.offset + 1, p.line, p.column + 1⟩

/-- The place after a text. -/
def advance (p : Position) (t : Text) : Position :=
  t.foldl step p

end Position

/-- A run of plain text, or a tag with what stands between its outer braces. -/
inductive Token where
  | text (value : Text) (position : Position)
  | tag (body : Text) (position : Position)
deriving DecidableEq, Repr

/-- A tag as it is written. -/
abbrev tagSource (body : Text) : Text :=
  CodeUnit.openBrace :: (body ++ [CodeUnit.closeBrace])

namespace Token

/-- The part of the source that a token stands for. -/
def lexeme : Token → Text
  | text value _ => value
  | tag body _ => tagSource body

def position : Token → Position
  | text _ p => p
  | tag _ p => p

end Token

/-- What can be wrong with a brace. -/
inductive BraceDefect.Kind where
  /-- An opening brace that is never closed. -/
  | unclosed
  /-- A closing brace outside every tag. -/
  | unopened
deriving DecidableEq, Repr

/-- A brace without its partner. -/
structure BraceDefect where
  kind : BraceDefect.Kind
  position : Position
deriving DecidableEq, Repr

/-- The tokens of a source and what is wrong with its braces, both in source order. -/
structure Tokens where
  tokens : List Token
  defects : List BraceDefect
deriving DecidableEq, Repr

namespace Tokens

/-- What stands between an opening brace and the brace that closes it, and what follows that one;
`depth` counts the braces opened in between. -/
def splitTag (depth : Nat) : Text → Option (Text × Text)
  | [] => none
  | u :: rest =>
    if u = CodeUnit.openBrace then
      (splitTag (depth + 1) rest).map fun (body, after) => (u :: body, after)
    else if u = CodeUnit.closeBrace then
      match depth with
      | 0 => some ([], rest)
      | depth + 1 => (splitTag depth rest).map fun (body, after) => (u :: body, after)
    else (splitTag depth rest).map fun (body, after) => (u :: body, after)

/-- The body, the closing brace and what follows make up the text again. -/
theorem eq_of_splitTag {depth : Nat} {t body after : Text} (h : splitTag depth t = some (body, after)) :
    t = body ++ CodeUnit.closeBrace :: after := by
  induction t generalizing depth body with
  | nil => simp [splitTag] at h
  | cons u rest ih =>
    have step : ∀ d, (splitTag d rest).map (fun (b, a) => (u :: b, a)) = some (body, after) →
        u :: rest = body ++ CodeUnit.closeBrace :: after := by
      intro d hd
      obtain ⟨⟨b, a⟩, hsplit, heq⟩ := Option.map_eq_some_iff.1 hd
      simp only [Prod.mk.injEq] at heq
      obtain ⟨rfl, rfl⟩ := heq
      simp [ih hsplit]
    unfold splitTag at h
    split at h
    · exact step _ h
    · split at h
      · rename_i hclose
        split at h
        · simp only [Option.some.injEq, Prod.mk.injEq] at h
          obtain ⟨rfl, rfl⟩ := h
          simp [hclose]
        · exact step _ h
      · exact step _ h

theorem splitTag_length {depth : Nat} {t body after : Text}
    (h : splitTag depth t = some (body, after)) : after.length < t.length := by
  rw [eq_of_splitTag h]
  simp
  omega

/-- Puts a unit of plain text before tokens, into the text that they begin with if there is one. -/
def consUnit (u : CodeUnit) (p : Position) : List Token → List Token
  | .text value _ :: rest => .text (u :: value) p :: rest
  | tokens => .text [u] p :: tokens

/-- The tokens of a text that begins at a position. -/
def scan (p : Position) : Text → Tokens
  | [] => ⟨[], []⟩
  | u :: rest =>
    if u = CodeUnit.openBrace then
      match _h : splitTag 0 rest with
      | none => ⟨[.text (u :: rest) p], [⟨.unclosed, p⟩]⟩
      | some (body, after) =>
        let later := scan (p.advance (tagSource body)) after
        ⟨.tag body p :: later.tokens, later.defects⟩
    else
      let later := scan (p.step u) rest
      ⟨consUnit u p later.tokens,
        if u = CodeUnit.closeBrace then ⟨.unopened, p⟩ :: later.defects else later.defects⟩
termination_by t => t.length
decreasing_by
  · have := splitTag_length _h; simp; omega
  · simp

/-- The tokens of a source. -/
def ofSource (source : Text) : Tokens :=
  scan .start source

end Tokens

end BraceTemplate
