import BraceTemplate.Expression.Reading
import BraceTemplate.Proofs.Lexing

/-!
# The grammar of expressions

The grammar by rules, one for each alternative:

    expression := operand (comparison operand)?
    operand    := literal | name "(" arguments? ")" | path
    arguments  := argument ("," argument)*
    argument   := literal | path
    path       := (name | root) ("." name)*

A rule says which lexemes an expression consists of, and a text spells the expression if it can be cut into
these lexemes. Each reader is compared with its rules twice: what it reads was derived (`derives_of_…`), and what
is derived it reads, before whatever may follow (`…_of_derives`).

* `ofLexemes?_eq_some_iff` — the expression read from lexemes is the one derived from them;
* `reads_exactly_the_grammar` — the expression read from a text is the one it spells.
-/

namespace BraceTemplate

/-! ## Rules -/

/-- A name that opens or closes no block and is no literal. -/
def Name.IsFree (w : Text) : Prop :=
  Name.isValid w ∧ w ∉ [ifWord, endifWord, forWord, endforWord, trueWord, falseWord, nullWord]

/-- The lexeme of a literal. -/
inductive Literal.Derives : Literal → List Lexeme → Prop
  | text (t : Text) : Derives (text t) [.text t]
  | number (n : Number) : Derives (number n) [.number n]
  | trueWord : Derives (bool true) [.word Name.trueWord]
  | falseWord : Derives (bool false) [.word Name.falseWord]
  | nullWord : Derives null [.word Name.nullWord]

/-- Names, each after a dot. -/
inductive Path.Fields : List Text → List Lexeme → Prop
  | nil : Fields [] []
  | cons {w : Text} {ws : List Text} {ls : List Lexeme} : Name.isValid w → Fields ws ls →
      Fields (w :: ws) (.dot :: .word w :: ls)

/-- A free name or one of the two roots, and names after dots. -/
inductive Path.Derives : Path → List Lexeme → Prop
  | name {w : Text} {ws : List Text} {ls : List Lexeme} : Name.IsFree w → Fields ws ls →
      Derives ⟨w, ws⟩ (.word w :: ls)
  | root {w : Text} {ws : List Text} {ls : List Lexeme} : w = Name.conversationRoot ∨ w = Name.userRoot →
      Fields ws ls → Derives ⟨w, ws⟩ (.word w :: ls)

/-- A literal or a path. -/
inductive Argument.Derives : Argument → List Lexeme → Prop
  | literal {l : Literal} {ls : List Lexeme} : l.Derives ls → Derives (literal l) ls
  | path {p : Path} {ls : List Lexeme} : p.Derives ls → Derives (path p) ls

/-- Arguments with commas between them. -/
inductive Call.Arguments : List Argument → List Lexeme → Prop
  | one {a : Argument} {ls : List Lexeme} : a.Derives ls → Arguments [a] ls
  | more {a : Argument} {as : List Argument} {ls rest : List Lexeme} : a.Derives ls → Arguments as rest →
      Arguments (a :: as) (ls ++ .comma :: rest)

/-- A free name with parentheses, perhaps with arguments between them. -/
inductive Call.Derives : Call → List Lexeme → Prop
  | empty {w : Text} : Name.IsFree w → Derives ⟨w, []⟩ [.word w, .openParen, .closeParen]
  | arguments {w : Text} {as : List Argument} {ls : List Lexeme} : Name.IsFree w → Arguments as ls →
      Derives ⟨w, as⟩ (.word w :: .openParen :: (ls ++ [.closeParen]))

/-- A literal, a path or a call. -/
inductive Operand.Derives : Operand → List Lexeme → Prop
  | simple {a : Argument} {ls : List Lexeme} : a.Derives ls → Derives (simple a) ls
  | call {c : Call} {ls : List Lexeme} : c.Derives ls → Derives (call c) ls

namespace Expression

/-- An operand, or two with a comparison between them. -/
inductive Derives : Expression → List Lexeme → Prop
  | operand {o : Operand} {ls : List Lexeme} : o.Derives ls → Derives (operand o) ls
  | compare {c : Comparison} {left right : Operand} {ls rs : List Lexeme} : left.Derives ls → right.Derives rs →
      Derives (compare c left right) (ls ++ .comparison c :: rs)

/-- Whether a text is a spelling of an expression. -/
def IsSpelled (e : Expression) (t : Text) : Prop :=
  ∃ ls, Lexeme.Cut t ls ∧ e.Derives ls

/-! ## Words -/

/-- Whether the words among lexemes are such as the scanner finds. -/
def Scanned (tokens : List Lexeme) : Prop :=
  ∀ w, .word w ∈ tokens → Name.IsWord w

theorem Scanned.of_append {ls rest : List Lexeme} (h : Scanned (ls ++ rest)) : Scanned rest :=
  fun w hw => h w (List.mem_append_right ls hw)

theorem Scanned.tail {l : Lexeme} {rest : List Lexeme} (h : Scanned (l :: rest)) : Scanned rest :=
  fun w hw => h w (List.mem_cons_of_mem l hw)

theorem hasDollar_of_isValid {w : Text} (h : Name.isValid w) : Name.hasDollar w = false := by
  cases w with
  | nil => simp [Name.isValid] at h
  | cons u w =>
    have hu : u ≠ CodeUnit.dollar := by
      rintro rfl
      simp [Name.isValid, Lexeme.not_startsName_dollar] at h
    simp [Name.hasDollar, hu]

/-- A word without a dollar sign is a name. -/
theorem isValid_of_isWord {w : Text} (h : Name.IsWord w) (hd : Name.hasDollar w = false) : Name.isValid w := by
  cases h with
  | name h => exact h
  | root h => simp [Name.hasDollar] at hd

theorem ofWord?_eq_none_iff {w : Text} :
    Literal.ofWord? w = none ↔ w ≠ Name.trueWord ∧ w ≠ Name.falseWord ∧ w ≠ Name.nullWord := by
  unfold Literal.ofWord?
  split_ifs <;> simp_all

theorem isFree_iff {w : Text} : Name.IsFree w ↔
    Name.isValid w ∧ Name.isReserved w = false ∧ Literal.ofWord? w = none := by
  rw [ofWord?_eq_none_iff]
  simp [Name.IsFree, Name.isReserved, and_assoc]

/-! ## Paths -/

theorem fields?_of_derives {ws : List Text} {ls rest : List Lexeme} (h : Path.Fields ws ls)
    (hrest : rest.head? ≠ some .dot) : fields? (ls ++ rest) = some (ws, rest) := by
  induction h with
  | nil =>
    rw [List.nil_append, fields?.eq_def]
    split
    · simp at hrest
    · simp at hrest
    · rfl
  | @cons w ws ls hw _ ih =>
    show fields? (.dot :: .word w :: (ls ++ rest)) = some (w :: ws, rest)
    rw [fields?, if_neg (by simp [hasDollar_of_isValid hw]), ih]
    rfl

theorem derives_of_fields? {tokens rest : List Lexeme} {ws : List Text} (hs : Scanned tokens)
    (h : fields? tokens = some (ws, rest)) : ∃ ls, tokens = ls ++ rest ∧ Path.Fields ws ls := by
  fun_induction fields? tokens generalizing ws with
  | case1 => simp at h
  | case2 w tokens hd ih =>
    obtain ⟨⟨ws', rest'⟩, hread, heq⟩ := Option.map_eq_some_iff.1 h
    obtain ⟨rfl, rfl⟩ := Prod.mk.inj heq
    obtain ⟨ls, rfl, hls⟩ := ih hs.tail.tail hread
    have hw : Name.isValid w := isValid_of_isWord (hs w (by simp)) (by simpa using hd)
    exact ⟨.dot :: .word w :: ls, rfl, .cons hw hls⟩
  | case3 => simp at h
  | case4 =>
    obtain ⟨rfl, rfl⟩ := Prod.mk.inj (Option.some.inj h)
    exact ⟨[], rfl, .nil⟩

theorem pathFrom?_of_derives {p : Path} {ls rest : List Lexeme} (h : p.Derives ls)
    (hrest : rest.head? ≠ some .dot) : ∃ w ls', ls = .word w :: ls' ∧ Literal.ofWord? w = none ∧
      pathFrom? w (ls' ++ rest) = some (p, rest) := by
  cases h with
  | @name w ws ls hw hfields =>
    obtain ⟨hvalid, hreserved, hliteral⟩ := isFree_iff.1 hw
    have hhead : isHead w := by simp [isHead, hreserved, hasDollar_of_isValid hvalid]
    refine ⟨w, ls, rfl, hliteral, ?_⟩
    rw [pathFrom?, if_pos hhead, fields?_of_derives hfields hrest]
    rfl
  | @root w ws ls hw hfields =>
    have hhead : isHead w ∧ Literal.ofWord? w = none := by rcases hw with rfl | rfl <;> decide
    refine ⟨w, ls, rfl, hhead.2, ?_⟩
    rw [pathFrom?, if_pos hhead.1, fields?_of_derives hfields hrest]
    rfl

theorem derives_of_pathFrom? {w : Text} {tokens rest : List Lexeme} {p : Path}
    (hs : Scanned (.word w :: tokens)) (hliteral : Literal.ofWord? w = none)
    (h : pathFrom? w tokens = some (p, rest)) : ∃ ls, .word w :: tokens = ls ++ rest ∧ p.Derives ls := by
  unfold pathFrom? at h
  split at h
  · rename_i hhead
    obtain ⟨⟨ws, rest'⟩, hread, heq⟩ := Option.map_eq_some_iff.1 h
    obtain ⟨rfl, rfl⟩ := Prod.mk.inj heq
    obtain ⟨ls, rfl, hfields⟩ := derives_of_fields? hs.tail hread
    refine ⟨.word w :: ls, rfl, ?_⟩
    obtain ⟨hreserved, hroot⟩ : Name.isReserved w = false ∧
        (Name.hasDollar w = false ∨ w = Name.conversationRoot ∨ w = Name.userRoot) := by
      simpa [isHead, or_assoc] using hhead
    rcases hroot with hd | hroot
    · have hvalid := isValid_of_isWord (hs w (by simp)) hd
      exact .name (isFree_iff.2 ⟨hvalid, hreserved, hliteral⟩) hfields
    · exact .root hroot hfields
  · simp at h

/-! ## Arguments -/

theorem argument?_word_of_literal {w : Text} {l : Literal} (h : Literal.ofWord? w = some l)
    (rest : List Lexeme) : argument? (.word w :: rest) = some (.literal l, rest) := by
  simp [argument?, h]

theorem argument?_word_of_path {w : Text} (h : Literal.ofWord? w = none) (rest : List Lexeme) :
    argument? (.word w :: rest) = (pathFrom? w rest).map fun (p, after) => (.path p, after) := by
  simp [argument?, h]

theorem argument?_of_derives {a : Argument} {ls rest : List Lexeme} (h : a.Derives ls)
    (hrest : rest.head? ≠ some .dot) : argument? (ls ++ rest) = some (a, rest) := by
  cases h with
  | literal hl =>
    cases hl with
    | text | number => rfl
    | trueWord | falseWord | nullWord => exact argument?_word_of_literal (by decide) rest
  | path hp =>
    obtain ⟨w, ls', rfl, hliteral, hread⟩ := pathFrom?_of_derives hp hrest
    rw [List.cons_append, argument?_word_of_path hliteral, hread]
    rfl

theorem derives_of_ofWord? {w : Text} {l : Literal} (h : Literal.ofWord? w = some l) :
    l.Derives [.word w] := by
  unfold Literal.ofWord? at h
  split_ifs at h with h1 h2 h3 <;> obtain rfl := Option.some.inj h
  · exact h1 ▸ .trueWord
  · exact h2 ▸ .falseWord
  · exact h3 ▸ .nullWord

theorem derives_of_argument? {tokens rest : List Lexeme} {a : Argument} (hs : Scanned tokens)
    (h : argument? tokens = some (a, rest)) : ∃ ls, tokens = ls ++ rest ∧ a.Derives ls := by
  unfold argument? at h
  split at h
  · rename_i t rest'
    obtain ⟨rfl, rfl⟩ := Prod.mk.inj (Option.some.inj h)
    exact ⟨[.text t], rfl, .literal (.text t)⟩
  · rename_i n rest'
    obtain ⟨rfl, rfl⟩ := Prod.mk.inj (Option.some.inj h)
    exact ⟨[.number n], rfl, .literal (.number n)⟩
  · rename_i w rest'
    split at h
    · rename_i l hl
      obtain ⟨rfl, rfl⟩ := Prod.mk.inj (Option.some.inj h)
      exact ⟨[.word w], rfl, .literal (derives_of_ofWord? hl)⟩
    · rename_i hl
      obtain ⟨⟨p, rest''⟩, hread, heq⟩ := Option.map_eq_some_iff.1 h
      obtain ⟨rfl, rfl⟩ := Prod.mk.inj heq
      obtain ⟨ls, hsplit, hp⟩ := derives_of_pathFrom? hs hl hread
      exact ⟨ls, hsplit, .path hp⟩
  · simp at h

theorem moreArguments?_of_derives {as : List Argument} {ls : List Lexeme} (h : Call.Arguments as ls)
    (rest : List Lexeme) : moreArguments? (ls ++ .closeParen :: rest) = some (as, rest) := by
  induction h with
  | @one a ls ha =>
    have hread : argument? (ls ++ .closeParen :: rest) = some (a, .closeParen :: rest) :=
      argument?_of_derives ha (by simp)
    exact moreArguments?_of_closeParen hread
  | @more a as ls ls' ha _ ih =>
    have hread : argument? (ls ++ .comma :: (ls' ++ .closeParen :: rest)) =
        some (a, .comma :: (ls' ++ .closeParen :: rest)) := argument?_of_derives ha (by simp)
    rw [List.append_assoc, List.cons_append, moreArguments?_of_comma hread, ih]
    rfl

theorem derives_of_moreArguments? {tokens rest : List Lexeme} {as : List Argument} (hs : Scanned tokens)
    (h : moreArguments? tokens = some (as, rest)) :
    ∃ ls, tokens = ls ++ .closeParen :: rest ∧ Call.Arguments as ls := by
  induction tokens using moreArguments?.induct generalizing as with
  | case1 tokens a after hread ih =>
    rw [moreArguments?_of_comma hread] at h
    obtain ⟨⟨as', rest'⟩, hmore, heq⟩ := Option.map_eq_some_iff.1 h
    obtain ⟨rfl, rfl⟩ := Prod.mk.inj heq
    obtain ⟨ls, rfl, ha⟩ := derives_of_argument? hs hread
    obtain ⟨ls', rfl, has⟩ := ih hs.of_append.tail hmore
    exact ⟨ls ++ .comma :: ls', by simp, .more ha has⟩
  | case2 tokens a after hread =>
    rw [moreArguments?_of_closeParen hread] at h
    obtain ⟨rfl, rfl⟩ := Prod.mk.inj (Option.some.inj h)
    obtain ⟨ls, rfl, ha⟩ := derives_of_argument? hs hread
    exact ⟨ls, rfl, .one ha⟩
  | case3 tokens hcomma hclose =>
    rw [moreArguments?.eq_def] at h
    split at h
    · rename_i a after hread
      exact absurd hread (hcomma a after)
    · rename_i a after hread
      exact absurd hread (hclose a after)
    · simp at h

/-! ## Operands -/

theorem arguments?_of_derives {as : List Argument} {ls : List Lexeme} (h : Call.Arguments as ls)
    (rest : List Lexeme) : arguments? (ls ++ .closeParen :: rest) = some (as, rest) := by
  have hread := moreArguments?_of_derives h rest
  unfold arguments?
  split
  · -- no argument begins with a closing parenthesis
    rename_i tokens htokens
    rw [htokens, moreArguments?.eq_def] at hread
    simp [argument?] at hread
  · exact hread

theorem operand?_word_of_call {w : Text} (hw : Name.IsFree w) (rest : List Lexeme) :
    operand? (.word w :: .openParen :: rest) =
      (arguments? rest).map fun (as, after) => (.call ⟨w, as⟩, after) := by
  obtain ⟨hvalid, hreserved, hliteral⟩ := isFree_iff.1 hw
  simp [operand?, hliteral, hasDollar_of_isValid hvalid, hreserved]

/-- A word before a parenthesis is no whole argument. -/
theorem operand?_of_argument? {tokens rest : List Lexeme} {a : Argument}
    (h : argument? tokens = some (a, rest)) (hrest : rest.head? ≠ some .openParen) :
    operand? tokens = some (.simple a, rest) := by
  unfold operand?
  split
  · -- the argument ends before the parenthesis, be it a literal or a path
    rename_i w tokens
    exfalso
    apply hrest
    cases hl : Literal.ofWord? w with
    | some l =>
      rw [argument?_word_of_literal hl] at h
      rw [← (Prod.mk.inj (Option.some.inj h)).2]
      rfl
    | none =>
      rw [argument?_word_of_path hl, pathFrom?] at h
      split at h
      · rw [fields?.eq_def] at h
        rw [← (Prod.mk.inj (Option.some.inj h)).2]
        rfl
      · simp at h
  · rw [h]
    rfl

theorem operand?_of_derives {o : Operand} {ls rest : List Lexeme} (h : o.Derives ls)
    (hdot : rest.head? ≠ some .dot) (hparen : rest.head? ≠ some .openParen) :
    operand? (ls ++ rest) = some (o, rest) := by
  cases h with
  | simple ha => exact operand?_of_argument? (argument?_of_derives ha hdot) hparen
  | call hc =>
    cases hc with
    | @empty w hw =>
      have hread : arguments? (.closeParen :: rest) = some ([], rest) := rfl
      show operand? (.word w :: .openParen :: .closeParen :: rest) = some (.call ⟨w, []⟩, rest)
      rw [operand?_word_of_call hw, hread]
      rfl
    | @arguments w as ls hw has =>
      have hsplit : .word w :: .openParen :: (ls ++ [.closeParen]) ++ rest =
          .word w :: .openParen :: (ls ++ .closeParen :: rest) := by simp
      rw [hsplit, operand?_word_of_call hw, arguments?_of_derives has rest]
      rfl

theorem derives_of_arguments? {w : Text} {tokens rest : List Lexeme} {as : List Argument} (hw : Name.IsFree w)
    (hs : Scanned tokens) (h : arguments? tokens = some (as, rest)) :
    ∃ ls, .word w :: .openParen :: tokens = ls ++ rest ∧ Call.Derives ⟨w, as⟩ ls := by
  unfold arguments? at h
  split at h
  · obtain ⟨rfl, rfl⟩ := Prod.mk.inj (Option.some.inj h)
    exact ⟨[.word w, .openParen, .closeParen], rfl, .empty hw⟩
  · obtain ⟨ls, rfl, has⟩ := derives_of_moreArguments? hs h
    exact ⟨.word w :: .openParen :: (ls ++ [.closeParen]), by simp, .arguments hw has⟩

theorem derives_of_operand? {tokens rest : List Lexeme} {o : Operand} (hs : Scanned tokens)
    (h : operand? tokens = some (o, rest)) : ∃ ls, tokens = ls ++ rest ∧ o.Derives ls := by
  unfold operand? at h
  split at h
  · rename_i w tokens
    split at h
    · rename_i l hl
      obtain ⟨rfl, rfl⟩ := Prod.mk.inj (Option.some.inj h)
      exact ⟨[.word w], rfl, .simple (.literal (derives_of_ofWord? hl))⟩
    · rename_i hl
      split at h
      · simp at h
      · rename_i hname
        obtain ⟨hd, hreserved⟩ : Name.hasDollar w = false ∧ Name.isReserved w = false := by simpa using hname
        have hvalid : Name.isValid w := isValid_of_isWord (hs w (by simp)) hd
        have hw : Name.IsFree w := isFree_iff.2 ⟨hvalid, hreserved, hl⟩
        obtain ⟨⟨as, rest'⟩, hread, heq⟩ := Option.map_eq_some_iff.1 h
        obtain ⟨rfl, rfl⟩ := Prod.mk.inj heq
        obtain ⟨ls, hsplit, hc⟩ := derives_of_arguments? hw hs.tail.tail hread
        exact ⟨ls, hsplit, .call hc⟩
  · obtain ⟨⟨a, rest'⟩, hread, heq⟩ := Option.map_eq_some_iff.1 h
    obtain ⟨rfl, rfl⟩ := Prod.mk.inj heq
    obtain ⟨ls, hsplit, ha⟩ := derives_of_argument? hs hread
    exact ⟨ls, hsplit, .simple ha⟩

/-! ## Expressions -/

/-- The expression read from lexemes is the one derived from them. -/
theorem ofLexemes?_eq_some_iff {tokens : List Lexeme} {e : Expression} (hs : Scanned tokens) :
    ofLexemes? tokens = some e ↔ e.Derives tokens := by
  constructor
  · intro h
    unfold ofLexemes? at h
    split at h
    · rename_i left hleft
      obtain ⟨ls, hsplit, ho⟩ := derives_of_operand? hs hleft
      rw [hsplit, List.append_nil, ← Option.some.inj h]
      exact .operand ho
    · rename_i left c rest hleft
      obtain ⟨ls, rfl, ho⟩ := derives_of_operand? hs hleft
      split at h
      · rename_i right hright
        obtain ⟨rs, hsplit, hr⟩ := derives_of_operand? hs.of_append.tail hright
        rw [hsplit, List.append_nil, ← Option.some.inj h]
        exact .compare ho hr
      · simp at h
    · simp at h
  · intro h
    cases h with
    | @operand o _ ho =>
      have hread : operand? (tokens ++ []) = some (o, []) := operand?_of_derives ho (by simp) (by simp)
      rw [List.append_nil] at hread
      simp [ofLexemes?, hread]
    | @compare c left right ls rs hl hr =>
      have hleft : operand? (ls ++ .comparison c :: rs) = some (left, .comparison c :: rs) :=
        operand?_of_derives hl (by simp) (by simp)
      have hright : operand? (rs ++ []) = some (right, []) := operand?_of_derives hr (by simp) (by simp)
      rw [List.append_nil] at hright
      simp [ofLexemes?, hleft, hright]

/-- The words of a text that can be cut are such as the grammar is read with. -/
theorem scanned_of_cut {t : Text} {tokens : List Lexeme} (h : Lexeme.Cut t tokens) : Scanned tokens :=
  fun _ hw => Lexeme.isWord_of_cut h hw

theorem ofText?_eq_some_iff {t : Text} {e : Expression} : ofText? t = some e ↔ e.IsSpelled t := by
  unfold ofText?
  constructor
  · intro h
    split at h
    · rename_i tokens htokens
      have hcut : Lexeme.Cut t tokens := Lexeme.all?_eq_some_iff.1 htokens
      exact ⟨tokens, hcut, (ofLexemes?_eq_some_iff (scanned_of_cut hcut)).1 h⟩
    · simp at h
  · rintro ⟨tokens, hcut, he⟩
    rw [Lexeme.all?_eq_some_iff.2 hcut]
    exact (ofLexemes?_eq_some_iff (scanned_of_cut hcut)).2 he

/-- The expression read from a text is the one it spells: a text spells one expression at most, and what spells
none is not read. -/
theorem reads_exactly_the_grammar (t : Text) :
    (∀ e, ofText? t = some e ↔ e.IsSpelled t) ∧ (ofText? t = none ↔ ∀ e, ¬ IsSpelled e t) := by
  refine ⟨fun e => ofText?_eq_some_iff, ?_⟩
  constructor
  · intro h e he
    have hread : ofText? t = some e := ofText?_eq_some_iff.2 he
    simp [hread] at h
  · intro h
    cases hread : ofText? t with
    | none => rfl
    | some e => exact absurd (ofText?_eq_some_iff.1 hread) (h e)

/-- A sign takes the equals sign after it, and a minus the digits after it; a word takes digits but no minus. -/
example : ofText? "a>==1" = none ∧ ofText? "a-1" = none ∧
    ofText? "a1>=-1" = some (.compare .atLeast (.simple (.path ⟨"a1", []⟩))
      (.simple (.literal (.number (Number.ofDigits true "1" [] 0))))) := by
  decide +kernel

end Expression

end BraceTemplate
