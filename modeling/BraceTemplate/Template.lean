import BraceTemplate.Template.Tag
import BraceTemplate.Template.Token

/-!
# Templates

A template is a list of nodes: text, references, calls and blocks with nodes of their own. It is built
from the tokens one by one. A block that is still open when the tokens end owns all that followed its
tag and is not closed; a closing tag that does not fit the innermost open block stays text.
-/

namespace BraceTemplate

/-- What a block does with its body. -/
inductive Opener where
  /-- Shows the body if the test holds; a test that cannot be read never does. -/
  | cond (test : Option Expression)
  /-- Shows the body once for every item; a source that cannot be read has none. -/
  | loop (binding : Text) (iterable : Option Expression)
deriving DecidableEq, Repr

def Opener.kind : Opener → BlockKind
  | cond _ => .cond
  | loop .. => .loop

/-- A node of a template. References and calls keep the tag they came from. -/
inductive Node where
  | text (value : Text)
  | reference (path : Path) (source : Text)
  | call (call : Call) (source : Text)
  | block (opener : Opener) (body : List Node) (closed : Bool)
deriving Repr

/-- The nodes of a template. -/
abbrev Template := List Node

namespace Template

/-- A block whose closing tag has not been met: its opener, and the nodes before it, latest first. -/
structure OpenBlock where
  opener : Opener
  earlier : List Node
deriving Repr

/-- A template under construction: the nodes of the innermost list, latest first, and the open blocks
from the inside out. -/
structure Partial where
  nodes : List Node
  blocks : List OpenBlock
deriving Repr

namespace Partial

/-- Nothing yet. -/
def empty : Partial := ⟨[], []⟩

/-- Adds a node to the innermost list. -/
def add (b : Partial) (n : Node) : Partial :=
  { b with nodes := n :: b.nodes }

/-- Opens a block. -/
def enter (b : Partial) (opener : Opener) : Partial :=
  ⟨[], ⟨opener, b.nodes⟩ :: b.blocks⟩

/-- Closes the innermost block if it is of the kind, and else keeps the tag as text. -/
def leave (b : Partial) (kind : BlockKind) (source : Text) : Partial :=
  match b.blocks with
  | block :: outer =>
    if block.opener.kind = kind then
      ⟨.block block.opener b.nodes.reverse true :: block.earlier, outer⟩
    else b.add (.text source)
  | [] => b.add (.text source)

/-- Takes in one token. -/
def step (b : Partial) (token : Token) : Partial :=
  match token with
  | .text value _ => b.add (.text value)
  | .tag body _ =>
    match Tag.ofBody body with
    | .cond test => b.enter (.cond test)
    | .loop binding iterable => b.enter (.loop binding iterable)
    | .close kind => b.leave kind (tagSource body)
    | .path p => b.add (.reference p (tagSource body))
    | .call c => b.add (.call c (tagSource body))
    | .plain => b.add (.text (tagSource body))

/-- Ends the blocks that are still open, from the inside out. -/
def finish (nodes : List Node) : List OpenBlock → Template
  | [] => nodes.reverse
  | block :: outer => finish (.block block.opener nodes.reverse false :: block.earlier) outer

end Partial

/-- The template that tokens make up. -/
def ofTokens (tokens : List Token) : Template :=
  let b := tokens.foldl Partial.step .empty
  Partial.finish b.nodes b.blocks

/-- The template of a source. -/
def ofSource (source : Text) : Template :=
  ofTokens (Tokens.ofSource source).tokens

end Template

end BraceTemplate
