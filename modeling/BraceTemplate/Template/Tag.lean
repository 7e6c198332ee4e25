import BraceTemplate.Expression.Reading

/-!
# Tags

What a tag is follows from its trimmed body: it opens or closes a block, it names a path or a call,
or it is plain text in braces. Whether it is a block tag does not depend on its expression.
-/

namespace BraceTemplate

/-- The two kinds of block. -/
inductive BlockKind where
  | cond
  | loop
deriving DecidableEq, Repr

namespace BlockKind

/-- The word that opens a block. -/
def openWord : BlockKind → Text
  | cond => Name.ifWord
  | loop => Name.forWord

/-- The word that closes a block. -/
def closeWord : BlockKind → Text
  | cond => Name.endifWord
  | loop => Name.endforWord

end BlockKind

/-- The block word of a tag. -/
inductive Keyword where
  | opens (kind : BlockKind)
  | closes (kind : BlockKind)
deriving DecidableEq, Repr

/-- What a tag means. An expression that cannot be read is none. -/
inductive Tag where
  | cond (test : Option Expression)
  | loop (binding : Text) (iterable : Option Expression)
  | close (kind : BlockKind)
  | path (p : Path)
  | call (c : Call)
  | plain
deriving DecidableEq, Repr

namespace Tag

/-- What follows a word and the blanks after it; at least one blank is needed. -/
def afterWord? (word t : Text) : Option Text :=
  match Text.dropStart? word t with
  | some (u :: rest) => if u.isBlank then some (Text.trimStart rest) else none
  | _ => none

/-- The test of a trimmed body that opens a conditional block. -/
def condition? (t : Text) : Option Text :=
  match afterWord? Name.ifWord t with
  | some [] => none
  | test => test

/-- The binding and the source of a trimmed body that opens a loop. -/
def loop? (t : Text) : Option (Text × Text) :=
  match afterWord? Name.forWord t with
  | none => none
  | some rest =>
    match Name.split? rest with
    | some (binding, u :: after) =>
      if u.isBlank then
        match afterWord? Name.inWord (Text.trimStart after) with
        | some [] => none
        | some source => some (binding, source)
        | none => none
      else none
    | _ => none

/-- The block word of a tag with this body. -/
def keyword? (body : Text) : Option Keyword :=
  let t := body.trim
  if t = Name.endifWord then some (.closes .cond)
  else if t = Name.endforWord then some (.closes .loop)
  else if (condition? t).isSome then some (.opens .cond)
  else if (loop? t).isSome then some (.opens .loop)
  else none

/-- What a tag with this body means. -/
def ofBody (body : Text) : Tag :=
  let t := body.trim
  match keyword? body with
  | some (.closes kind) => .close kind
  | some (.opens .cond) => .cond ((condition? t).bind Expression.ofText?)
  | some (.opens .loop) =>
    match loop? t with
    | some (binding, source) => .loop binding (Expression.ofText? source)
    | none => .plain
  | none =>
    match Expression.ofText? t with
    | some (.operand (.simple (.path p))) => .path p
    | some (.operand (.call c)) => .call c
    | _ => .plain

end Tag

end BraceTemplate
