import BraceTemplate.Expression.Lexeme

/-!
# Reading expressions

The grammar, read from lexemes from left to right:

    expression := operand (comparison operand)?
    operand    := literal | name "(" arguments? ")" | path
    arguments  := argument ("," argument)*
    argument   := literal | path
    path       := (name | root) ("." name)*

The words `true`, `false` and `null` are literals wherever an operand begins, and the reserved words
name neither a path nor a function.
-/

namespace BraceTemplate

namespace Expression

/-- The fields after the head of a path, and what follows them. -/
def fields? : List Lexeme → Option (List Text × List Lexeme)
  | .dot :: .word w :: rest =>
    if Name.hasDollar w then none
    else (fields? rest).map fun (fields, after) => (w :: fields, after)
  | .dot :: _ => none
  | rest => some ([], rest)

/-- Whether a word may be the head of a path. -/
def isHead (word : Text) : Bool :=
  !Name.isReserved word &&
    (!Name.hasDollar word || word = Name.conversationRoot || word = Name.userRoot)

/-- The path that begins with a word. -/
def pathFrom? (word : Text) (rest : List Lexeme) : Option (Path × List Lexeme) :=
  if isHead word then (fields? rest).map fun (fields, after) => (⟨word, fields⟩, after) else none

/-- A literal or a path. -/
def argument? : List Lexeme → Option (Argument × List Lexeme)
  | .text t :: rest => some (.literal (.text t), rest)
  | .number n :: rest => some (.literal (.number n), rest)
  | .word w :: rest =>
    match Literal.ofWord? w with
    | some l => some (.literal l, rest)
    | none => (pathFrom? w rest).map fun (p, after) => (.path p, after)
  | _ => none

theorem fields?_length {tokens after : List Lexeme} {fields : List Text}
    (h : fields? tokens = some (fields, after)) : after.length ≤ tokens.length := by
  fun_induction fields? tokens generalizing fields with
  | case1 => simp at h
  | case2 w rest _ ih =>
    obtain ⟨⟨fs, r⟩, hf, heq⟩ := Option.map_eq_some_iff.1 h
    simp only [Prod.mk.injEq] at heq
    obtain ⟨_, rfl⟩ := heq
    have := ih hf
    simp only [List.length_cons]
    omega
  | case3 => simp at h
  | case4 =>
    simp only [Option.some.injEq, Prod.mk.injEq] at h
    obtain ⟨_, rfl⟩ := h
    exact Nat.le_refl _

theorem pathFrom?_length {word : Text} {rest after : List Lexeme} {p : Path}
    (h : pathFrom? word rest = some (p, after)) : after.length ≤ rest.length := by
  unfold pathFrom? at h
  split at h
  · obtain ⟨⟨fs, r⟩, hf, heq⟩ := Option.map_eq_some_iff.1 h
    simp only [Prod.mk.injEq] at heq
    obtain ⟨_, rfl⟩ := heq
    exact fields?_length hf
  · simp at h

theorem argument?_length {tokens after : List Lexeme} {a : Argument}
    (h : argument? tokens = some (a, after)) : after.length < tokens.length := by
  unfold argument? at h
  split at h
  · simp only [Option.some.injEq, Prod.mk.injEq] at h
    obtain ⟨_, rfl⟩ := h
    simp
  · simp only [Option.some.injEq, Prod.mk.injEq] at h
    obtain ⟨_, rfl⟩ := h
    simp
  · split at h
    · simp only [Option.some.injEq, Prod.mk.injEq] at h
      obtain ⟨_, rfl⟩ := h
      simp
    · obtain ⟨⟨p, r⟩, hp, heq⟩ := Option.map_eq_some_iff.1 h
      simp only [Prod.mk.injEq] at heq
      obtain ⟨_, rfl⟩ := heq
      have := pathFrom?_length hp
      simp only [List.length_cons]
      omega
  · simp at h

/-- One argument or more, up to the closing parenthesis. -/
def moreArguments? (tokens : List Lexeme) : Option (List Argument × List Lexeme) :=
  match _h : argument? tokens with
  | some (a, .comma :: rest) => (moreArguments? rest).map fun (as, after) => (a :: as, after)
  | some (a, .closeParen :: rest) => some ([a], rest)
  | _ => none
termination_by tokens.length
decreasing_by have := argument?_length _h; simp only [List.length_cons] at this; omega

theorem moreArguments?_of_comma {tokens rest : List Lexeme} {a : Argument}
    (h : argument? tokens = some (a, .comma :: rest)) :
    moreArguments? tokens = (moreArguments? rest).map fun (as, after) => (a :: as, after) := by
  rw [moreArguments?.eq_def]
  split
  · rename_i a' rest' h'
    obtain ⟨rfl, htail⟩ := Prod.mk.inj (Option.some.inj (h.symm.trans h'))
    rw [(List.cons.inj htail).2]
  · rename_i h'
    simp [h] at h'
  · rename_i hcomma _
    exact absurd h (hcomma a rest)

theorem moreArguments?_of_closeParen {tokens rest : List Lexeme} {a : Argument}
    (h : argument? tokens = some (a, .closeParen :: rest)) : moreArguments? tokens = some ([a], rest) := by
  rw [moreArguments?.eq_def]
  split
  · rename_i h'
    simp [h] at h'
  · rename_i a' rest' h'
    obtain ⟨rfl, htail⟩ := Prod.mk.inj (Option.some.inj (h.symm.trans h'))
    rw [(List.cons.inj htail).2]
  · rename_i hclose
    exact absurd h (hclose a rest)

/-- The arguments of a call after its opening parenthesis. -/
def arguments? : List Lexeme → Option (List Argument × List Lexeme)
  | .closeParen :: rest => some ([], rest)
  | tokens => moreArguments? tokens

/-- A literal, a call or a path. -/
def operand? : List Lexeme → Option (Operand × List Lexeme)
  | .word w :: .openParen :: rest =>
    match Literal.ofWord? w with
    | some l => some (.simple (.literal l), .openParen :: rest)
    | none =>
      if Name.hasDollar w || Name.isReserved w then none
      else (arguments? rest).map fun (as, after) => (.call ⟨w, as⟩, after)
  | tokens => (argument? tokens).map fun (a, after) => (.simple a, after)

/-- The expression that lexemes make up. -/
def ofLexemes? (tokens : List Lexeme) : Option Expression :=
  match operand? tokens with
  | some (left, []) => some (.operand left)
  | some (left, .comparison c :: rest) =>
    match operand? rest with
    | some (right, []) => some (.compare c left right)
    | _ => none
  | _ => none

/-- The expression that a text spells. -/
def ofText? (t : Text) : Option Expression :=
  match Lexeme.all? t with
  | some tokens => ofLexemes? tokens
  | none => none

end Expression

end BraceTemplate
