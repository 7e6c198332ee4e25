import BraceTemplate.Builtin
import BraceTemplate.Proofs.Blocks
import BraceTemplate.Proofs.Callable
import BraceTemplate.Proofs.NormalValues
import BraceTemplate.Proofs.Placeholders

/-!
# Conditional blocks and the function `conditional`

A text that depends on one path can be written in two ways: as a conditional block around the text, and as a call of
the built-in function with the text in quotes. One way goes through the blocks of the builder and a test, the other
through the scanner of quotes and the rules for absent arguments; both show the text under the same condition.

* `cut_append` — the spelling of a path ends before a unit that no name goes on with;
* `ofText?_conditionalBody` — how the call is read;
* `answer_conditional` — what the function gives for a path and a text;
* `block_eq_conditional` — the two ways are the same.
-/

namespace BraceTemplate

/-! ## Spelled paths -/

/-- Whether a lexeme may stand in a path. -/
def Lexeme.InPath : Lexeme → Prop
  | word _ => True
  | dot => True
  | _ => False

theorem Path.Fields.inPath {ws : List Text} {ls : List Lexeme} (h : Path.Fields ws ls) : ∀ l ∈ ls, l.InPath := by
  induction h with
  | nil => simp
  | cons _ _ ih => simpa [Lexeme.InPath] using ih

theorem Path.Derives.inPath {p : Path} {ls : List Lexeme} (h : p.Derives ls) : ∀ l ∈ ls, l.InPath := by
  cases h with
  | name _ hfields => simpa [Lexeme.InPath] using hfields.inPath
  | root _ hfields => simpa [Lexeme.InPath] using hfields.inPath

namespace Lexeme

/-- What may stand in a path is as long as can be before a unit that no name goes on with, if it is so before what
follows it in the path. -/
theorem longest_append {l : Lexeme} (hl : l.InPath) {s t : Text} (h : Longest l s t) {u : CodeUnit}
    (hu : u.continuesName = false) (rest : Text) : Longest l s (t ++ u :: rest) := by
  cases h.1 with
  | word hw =>
    -- inside the path a word ended before some unit already, and only the last one meets the new one
    cases t with
    | nil => exact longest_word hw hu rest
    | cons v t => exact longest_word hw (continuesName_of_longest h) (t ++ u :: rest)
  | dot => exact longest_mark rfl (t ++ u :: rest)
  | text | number | comparison | openParen | closeParen | comma => exact hl.elim

/-- A text cut into what may stand in a path, and then a text that begins with a unit that no name goes on with. -/
theorem cut_append {t rest : Text} {ls rs : List Lexeme} (h : Cut t ls) (hls : ∀ l ∈ ls, l.InPath) {u : CodeUnit}
    (hu : u.continuesName = false) (hrest : Cut (u :: rest) rs) : Cut (t ++ u :: rest) (ls ++ rs) := by
  induction h with
  | nil => exact hrest
  | blank hblank _ ih => exact .blank hblank (ih hls)
  | @lexeme l s t ls hlongest _ ih =>
    obtain ⟨hl, hls⟩ := List.forall_mem_cons.1 hls
    rw [List.append_assoc]
    exact .lexeme (longest_append hl hlongest hu rest) (ih hls)

/-- Nothing that may stand in a path has braces. -/
theorem ne_brace_of_cut {t : Text} {ls : List Lexeme} (h : Cut t ls) (hls : ∀ l ∈ ls, l.InPath) :
    ∀ u ∈ t, u ≠ CodeUnit.openBrace ∧ u ≠ CodeUnit.closeBrace := by
  have hopen : CodeUnit.isBlank CodeUnit.openBrace = false := by decide
  have hclose : CodeUnit.isBlank CodeUnit.closeBrace = false := by decide
  induction h with
  | nil => simp
  | @blank v _ _ hblank _ ih =>
    have hv : v ≠ CodeUnit.openBrace ∧ v ≠ CodeUnit.closeBrace := by
      constructor
      · rintro rfl
        simp [hopen] at hblank
      · rintro rfl
        simp [hclose] at hblank
    exact List.forall_mem_cons.2 ⟨hv, ih hls⟩
  | @lexeme l s _ _ hlongest _ ih =>
    obtain ⟨hl, hls⟩ := List.forall_mem_cons.1 hls
    refine List.forall_mem_append.2 ⟨?_, ih hls⟩
    cases hlongest.1 with
    | word hw =>
      cases hw with
      | name hname => exact Name.ne_brace_of_isValid hname
      | root hname => exact List.forall_mem_cons.2 ⟨by decide, Name.ne_brace_of_isValid hname⟩
    | dot =>
      have hdot : ∀ u ∈ [CodeUnit.point], u ≠ CodeUnit.openBrace ∧ u ≠ CodeUnit.closeBrace :=
        List.forall_mem_singleton.2 (by decide)
      exact hdot
    | text | number | comparison | openParen | closeParen | comma => exact hl.elim

/-- A text with lexemes is not all blanks. -/
theorem exists_not_blank_of_cut {t : Text} {ls : List Lexeme} (h : Cut t ls) (hls : ls ≠ []) :
    ∃ u ∈ t, u.isBlank = false := by
  induction h with
  | nil => exact absurd rfl hls
  | blank _ _ ih =>
    rcases ih hls with ⟨u, hu, hblank⟩
    exact ⟨u, List.mem_cons_of_mem _ hu, hblank⟩
  | lexeme hlongest _ _ =>
    rcases exists_last_of_spelling hlongest.1 with ⟨s, u, rfl, hblank⟩
    exact ⟨u, by simp, hblank⟩

/-- A text without quotes and backslashes stands between quotes as it is. -/
theorem longest_quoted {t : Text} (ht : ∀ u ∈ t, u ≠ CodeUnit.quote ∧ u ≠ CodeUnit.backslash) (rest : Text) :
    Longest (text t) (CodeUnit.quote :: (t ++ [CodeUnit.quote])) rest := by
  have hinside : Inside CodeUnit.quote t t := by
    induction t with
    | nil => exact .nil
    | cons u t ih =>
      rcases List.forall_mem_cons.1 ht with ⟨hu, ht⟩
      exact .plain hu.1 hu.2 (ih ht)
  have hread : first? CodeUnit.quote (t ++ CodeUnit.quote :: rest) = some (text t, rest) := by
    rw [first?_quote (by decide), quoted?_of_inside hinside (by decide) rest]
    rfl
  exact longest_of_first? (by simp) hread

end Lexeme

/-! ## The call -/

/-- What stands in the tag of a call of the function `conditional` with a path and a text. -/
def conditionalBody (path text : Text) : Text :=
  Text.ofString "conditional(" ++ path ++ Text.ofString ", \"" ++ text ++ Text.ofString "\")"

/-- The source of such a call. -/
def conditionalSource (path text : Text) : Text :=
  tagSource (conditionalBody path text)

/-- The call as it is read. -/
def Call.conditional (p : Path) (text : Text) : Call :=
  ⟨"conditional", [.path p, .literal (.text text)]⟩

section Reading

variable {e text : Text} {p : Path} (he : Expression.ofText? e = some (.operand (.simple (.path p))))
include he

/-- The lexemes of a spelled path. -/
theorem Path.exists_cut : ∃ ls, Lexeme.Cut e ls ∧ p.Derives ls := by
  rcases Expression.ofText?_eq_some_iff.1 he with ⟨ls, hcut, hderives⟩
  cases hderives with
  | operand ho =>
    cases ho with
    | simple ha =>
      cases ha with
      | path hp => exact ⟨ls, hcut, hp⟩

theorem Path.ne_brace_of_ofText? : ∀ u ∈ e, u ≠ CodeUnit.openBrace ∧ u ≠ CodeUnit.closeBrace := by
  rcases Path.exists_cut he with ⟨ls, hcut, hp⟩
  exact Lexeme.ne_brace_of_cut hcut hp.inPath

theorem Path.exists_not_blank_of_ofText? : ∃ u ∈ e, u.isBlank = false := by
  rcases Path.exists_cut he with ⟨ls, hcut, hp⟩
  apply Lexeme.exists_not_blank_of_cut hcut
  rintro rfl
  cases hp

/-- The call of the function with a path and a text in quotes is read as such. -/
theorem ofText?_conditionalBody (htext : ∀ u ∈ text, u ≠ CodeUnit.quote ∧ u ≠ CodeUnit.backslash) :
    Expression.ofText? (conditionalBody e text) = some (.operand (.call (.conditional p text))) := by
  rcases Path.exists_cut he with ⟨ls, hcut, hp⟩
  -- the cut from the right, so that what follows each lexeme is known
  have hclose : Lexeme.Cut (Text.ofString ")") [.closeParen] := .lexeme (Lexeme.longest_mark rfl []) .nil
  have hquoted : Lexeme.Cut (CodeUnit.quote :: (text ++ [CodeUnit.quote]) ++ Text.ofString ")")
      [.text text, .closeParen] := .lexeme (Lexeme.longest_quoted htext _) hclose
  have hcomma : Lexeme.Cut
      (CodeUnit.comma :: 0x20 :: (CodeUnit.quote :: (text ++ [CodeUnit.quote]) ++ Text.ofString ")"))
      [.comma, .text text, .closeParen] :=
    .lexeme (Lexeme.longest_mark rfl _) (.blank CodeUnit.isBlank_space hquoted)
  have hpath := Lexeme.cut_append hcut hp.inPath (by decide) hcomma
  have hopen := Lexeme.Cut.lexeme (Lexeme.longest_mark (u := 0x28) (l := .openParen) rfl _) hpath
  have hfree : Name.IsFree (Text.ofString "conditional") := Registry.isCallable_iff_isFree.1 (by decide)
  have hname := Lexeme.Cut.lexeme (Lexeme.longest_word (.name hfree.1) (by decide) _) hopen
  have hbody : conditionalBody e text = Text.ofString "conditional" ++ ([0x28] ++ (e ++ CodeUnit.comma :: 0x20 ::
      (CodeUnit.quote :: (text ++ [CodeUnit.quote]) ++ Text.ofString ")"))) := by
    simp only [conditionalBody, List.append_assoc, List.cons_append]
    rfl
  have harguments : Call.Arguments [.path p, .literal (.text text)] (ls ++ [.comma, .text text]) :=
    .more (.path hp) (.one (.literal (.text text)))
  rw [Expression.ofText?_eq_some_iff, hbody]
  refine ⟨_, hname, ?_⟩
  have hcall := Call.Derives.arguments hfree harguments
  rw [List.append_assoc] at hcall
  exact .operand (.call hcall)

end Reading

/-- The call is no block tag. -/
theorem Tag.keyword?_conditionalBody (path text : Text) : keyword? (conditionalBody path text) = none := by
  have hlast : ∃ u ∈ Text.ofString "\")", u.isBlank = false := List.any_iff_exists_prop.1 (by decide)
  have htrim : (conditionalBody path text).trim = conditionalBody path text :=
    Text.trim_append (u := 0x63) (by decide)
      (Text.ofString "onditional(" ++ path ++ Text.ofString ", \"" ++ text) hlast
  have hendif : conditionalBody path text ≠ Name.endifWord := fun h => absurd (List.cons.inj h).1 (by decide)
  have hendfor : conditionalBody path text ≠ Name.endforWord := fun h => absurd (List.cons.inj h).1 (by decide)
  have hcondition : condition? (conditionalBody path text) = none := rfl
  have hloop : loop? (conditionalBody path text) = none := rfl
  simp only [keyword?, htrim, hendif, hendfor, if_false, hcondition, hloop, Option.isSome_none, Bool.false_eq_true]

/-! ## The function -/

section Evaluation

variable {σ : Type}

/-- After definitions are set one after another, a name finds the last of its definitions. -/
theorem Registry.get?_foldl_set (definitions : List (Definition σ)) (r : Registry σ) (name : Text) :
    (definitions.foldl set r).get? name = ((definitions.reverse.find? fun d => d.name = name).or (r.get? name)) := by
  induction definitions generalizing r with
  | nil => rfl
  | cons d rest ih =>
    rw [List.foldl_cons, ih, get?_set, List.reverse_cons, List.find?_append, Option.or_assoc]
    congr 1
    by_cases hname : d.name = name
    · simp [hname]
    · simp [hname, Ne.symm hname]

/-- What is not above a number is not above a greater one. -/
theorem Number.gtNat_of_le {n : Number} {a b : Nat} (h : a ≤ b) (ha : n.gtNat a = false) : n.gtNat b = false := by
  cases n with
  | nan => rfl
  | infinite s => exact ha
  | finite s m k =>
    have hunits : a <<< unitBits ≤ b <<< unitBits := by
      rw [Nat.shiftLeft_eq, Nat.shiftLeft_eq]
      exact Nat.mul_le_mul_right _ h
    simp only [gtNat, decide_eq_false_iff_not, not_lt] at ha ⊢
    exact ha.trans (Int.ofNat_le.2 hunits)

/-- Two arguments or more are enough where two are asked for. -/
theorem Number.gtNat_two {n : Nat} (h : 2 ≤ n) : (ofNat 2).gtNat n = false := by
  have htwo : (ofNat 2).gtNat 2 = false := by decide +kernel
  exact gtNat_of_le h htwo

/-- The built-in function. -/
def Builtin.conditionalDefinition : Definition σ :=
  ⟨"conditional", pureCallback 2 conditional, .ofNat 2, true⟩

theorem Registry.get?_registerBuiltins_conditional (r : Registry σ) (style : FunctionStyle) (clock : Clock σ) :
    (r.registerBuiltins style clock).get? "conditional" = some Builtin.conditionalDefinition := by
  rw [registerBuiltins, get?_foldl_set]
  rfl

/-- Whether what a path reads is there and counts as true. -/
def Context.holds (ctx : Context) (p : Path) : Bool :=
  ((ctx.resolve? p.segments).map Value.isTruthy).getD false

/-- A null counts as false, so it does not matter that a null is as good as absent. -/
theorem Context.holds_eq (ctx : Context) (p : Path) :
    ctx.holds p = ((ctx.present? p).map Value.isTruthy).getD false := by
  unfold holds present?
  cases ctx.resolve? p.segments with
  | none => rfl
  | some v => cases v <;> rfl

/-- A call with a value and a text gives one of two texts, and no such call fails. -/
theorem Builtin.answer_invoke_conditional (v : Value) (text : Text) (host : σ) :
    (conditionalDefinition.invoke [v, .text text] host).answer =
      .ok (some (.text (if v.isTruthy then text else []))) := by
  have hresult : conditional #[] ([v, .text text].map .value) =
      .ok (.ofValue (.text (if v.isTruthy then text else []))) := by
    simp only [conditional, argument, List.map_cons, List.map_nil, List.getD_cons_zero, Heap.isTruthy]
    cases v.isTruthy with
    | true => rfl
    | false => rfl
  exact congrArg Ran.answer (invoke_of_returns (d := conditionalDefinition) rfl hresult host)

/-- The function gives the text if what the path reads counts as true, and else the empty text: what is absent is
handed over as null. -/
theorem Call.answer_conditional {registry : Registry σ}
    (h : registry.get? "conditional" = some Builtin.conditionalDefinition) (ctx : Context) (p : Path) (text : Text)
    (host : σ) : ((Call.conditional p text).evaluate registry ctx host).answer =
      .ok (some (.text (if ctx.holds p then text else []))) := by
  have haccept : (Builtin.conditionalDefinition (σ := σ)).accept? [ctx.present? p, some (.text text)] =
      some [(ctx.present? p).getD .null, .text text] := by
    cases ctx.present? p <;> rfl
  -- null stands for what is absent, and is as false as that
  have hholds : ((ctx.present? p).getD .null).isTruthy = ctx.holds p := by
    rw [Context.holds_eq]
    cases ctx.present? p <;> rfl
  have henough : (Builtin.conditionalDefinition (σ := σ)).minArguments.gtNat 2 = false := by
    simp only [Builtin.conditionalDefinition, Number.gtNat_two le_rfl]
  have hanswer := Builtin.answer_invoke_conditional ((ctx.present? p).getD .null) text host
  rw [hholds] at hanswer
  rw [evaluate_of_accepted (c := .conditional p text) h henough haccept, Render.bind_of_ok hanswer]
  rfl

end Evaluation

/-! ## Both ways -/

/-- A text without opening braces is cut into no tags. -/
theorem Tokens.eq_text_of_mem_scan {s : Text} (hs : ∀ u ∈ s, u ≠ CodeUnit.openBrace) (p : Position) :
    ∀ t ∈ (scan p s).tokens, ∃ value q, t = .text value q := by
  induction s generalizing p with
  | nil => simp [scan_nil]
  | cons u rest ih =>
    rcases List.forall_mem_cons.1 hs with ⟨hu, hrest⟩
    have hlater := ih hrest (p.step u)
    rw [scan_unit hu]
    generalize (scan (p.step u) rest).tokens = ts at hlater ⊢
    intro t ht
    unfold consUnit at ht
    split at ht
    · rcases List.mem_cons.1 ht with rfl | ht
      · exact ⟨_, _, rfl⟩
      · exact hlater t (List.mem_cons_of_mem _ ht)
    · rcases List.mem_cons.1 ht with rfl | ht
      · exact ⟨_, _, rfl⟩
      · exact hlater t ht

section Rendering

variable {σ : Type} (registry : Registry σ) (ctx : Context)

/-- A text without opening braces renders to itself. -/
theorem Template.render_text {s : Text} (hs : ∀ u ∈ s, u ≠ CodeUnit.openBrace) :
    render registry ctx (ofSource s) = pure s := by
  have htexts := Tokens.eq_text_of_mem_scan hs .start
  have hkeyword : ∀ t ∈ (Tokens.ofSource s).tokens, ∀ kind, t.keyword? ≠ some (.opens kind) := by
    intro t ht kind
    rcases htexts t ht with ⟨value, q, rfl⟩
    exact (Option.some_ne_none _).symm
  have hshown : ∀ t ∈ (Tokens.ofSource s).tokens, t.shown registry ctx = pure t.lexeme := by
    intro t ht
    rcases htexts t ht with ⟨value, q, rfl⟩
    rfl
  rw [render_of_no_opener registry ctx hkeyword, Render.concat_pure hshown, Tokens.ofSource,
    Tokens.flatMap_lexeme_scan]

/-- The source of a call shows the value of the call. -/
theorem Template.render_conditionalSource {e text : Text} {p : Path}
    (he : Expression.ofText? e = some (.operand (.simple (.path p))))
    (htext : ∀ u ∈ text, u ≠ CodeUnit.quote ∧ u ≠ CodeUnit.backslash)
    (hbraces : ∀ u ∈ text, u ≠ CodeUnit.openBrace ∧ u ≠ CodeUnit.closeBrace) :
    render registry ctx (ofSource (conditionalSource e text)) = (do
      let value ← (Call.conditional p text).evaluate registry ctx
      return (value.map Value.toText).getD (conditionalSource e text)) := by
  have hbody : Balanced (conditionalBody e text) := by
    have hname : Balanced (Text.ofString "conditional(") := balanced_of_all (by decide)
    have hpath : Balanced e := balanced_of_forall (Path.ne_brace_of_ofText? he)
    have hcomma : Balanced (Text.ofString ", \"") := balanced_of_all (by decide)
    have hend : Balanced (Text.ofString "\")") := balanced_of_all (by decide)
    exact (((hname.append hpath).append hcomma).append (balanced_of_forall hbraces)).append hend
  have hkeyword : ∀ kind, Tag.keyword? (conditionalBody e text) ≠ some (.opens kind) := by
    intro kind
    rw [Tag.keyword?_conditionalBody]
    exact (Option.some_ne_none _).symm
  have hread : (Token.tag (conditionalBody e text) .start).placeholder? =
      some (.operand (.call (.conditional p text))) := by
    rw [Token.placeholder?, ofText?_conditionalBody he htext]
    rfl
  rw [conditionalSource, render_tagSource registry ctx hbody hkeyword, Token.shown, hread]
  rfl

/-- A conditional block with a path as its test shows its text if what the path reads counts as true. -/
theorem Template.render_conditionSource {e text : Text} {p : Path}
    (he : Expression.ofText? e = some (.operand (.simple (.path p))))
    (hbraces : ∀ u ∈ text, u ≠ CodeUnit.openBrace ∧ u ≠ CodeUnit.closeBrace) :
    render registry ctx (ofSource (conditionSource e text)) = pure (if ctx.holds p then text else []) := by
  have hwell : WellFormed text := .of_forall hbraces
  have hbody : render registry ctx (ofSource text) = pure text :=
    render_text registry ctx fun u hu => (hbraces u hu).1
  have htest : Expression.test registry ctx (some (.operand (.simple (.path p)))) = pure (ctx.holds p) := by
    simp only [Expression.test, Expression.evaluate, Operand.evaluate, Argument.resolve?, pure_bind, Context.holds_eq]
  calc render registry ctx (ofSource (conditionSource e text))
    _ = Node.render registry ctx (.block (.cond (Expression.ofText? e)) (ofSource text) true) := by
      rw [ofSource_conditionSource (Path.ne_brace_of_ofText? he) (Path.exists_not_blank_of_ofText? he) hwell]
      exact Node.renderAll_singleton registry ctx _
    _ = (do
        if ← Expression.test registry ctx (Expression.ofText? e) then render registry ctx (ofSource text)
        else pure []) := by
      rw [Node.render]
    _ = pure (if ctx.holds p then text else []) := by
      rw [he, htest, pure_bind, hbody]
      split
      · rfl
      · rfl

end Rendering

/-- A conditional block and the built-in function `conditional` are two ways to write the same.

For every path as it may be written, and every text without double quotes, backslashes and braces, the block of the
text with the path as its test and the call of the function with the path and the text in quotes render to the same: to
the text if what the path reads is there and counts as true, and else to nothing. This is so in every context, and with
the built-in functions registered over any others. -/
theorem block_eq_conditional {σ : Type} (functions : Registry σ) (style : FunctionStyle) (clock : Clock σ)
    (ctx : Context) (host : σ) (e text : Text) (p : Path)
    (he : Expression.ofText? e = some (.operand (.simple (.path p))))
    (htext : ∀ u ∈ text, u ∉ [CodeUnit.quote, CodeUnit.backslash, CodeUnit.openBrace, CodeUnit.closeBrace]) :
    let registry := functions.registerBuiltins style clock
    let shown := if ctx.holds p then text else []
    (Template.render registry ctx (Template.ofSource (conditionSource e text)) host).answer = .ok shown ∧
    (Template.render registry ctx (Template.ofSource (conditionalSource e text)) host).answer = .ok shown := by
  intro registry shown
  have hbraces : ∀ u ∈ text, u ≠ CodeUnit.openBrace ∧ u ≠ CodeUnit.closeBrace := by
    intro u hu
    have hother := htext u hu
    simp only [List.mem_cons, not_or] at hother
    exact ⟨hother.2.2.1, hother.2.2.2.1⟩
  have hquotes : ∀ u ∈ text, u ≠ CodeUnit.quote ∧ u ≠ CodeUnit.backslash := by
    intro u hu
    have hother := htext u hu
    simp only [List.mem_cons, not_or] at hother
    exact ⟨hother.1, hother.2.1⟩
  constructor
  · rw [Template.render_conditionSource registry ctx he hbraces]
    rfl
  · have hfunction := functions.get?_registerBuiltins_conditional style clock
    have hanswer := Call.answer_conditional hfunction ctx p text host
    rw [Template.render_conditionalSource registry ctx he hquotes hbraces, Render.bind_of_ok hanswer, Option.map_some,
      Option.getD_some]
    rfl

/-- A path into the data of the user with blanks around it, and a text of two lines. -/
theorem block_eq_conditional_user :
    let path := Text.ofString " $user.name "
    let text := Text.ofString "Dear,\n"
    let ctx : Context := ⟨[], [], [("name", .text "Ann")]⟩
    let registry : Registry Unit := Registry.empty.registerBuiltins ⟨"- ", "..."⟩ fun _ => none
    (Expression.ofText? path = some (.operand (.simple (.path ⟨"$user", ["name"]⟩))) ∧
      ∀ u ∈ text, u ∉ [CodeUnit.quote, CodeUnit.backslash, CodeUnit.openBrace, CodeUnit.closeBrace]) ∧
    (Template.render registry ctx (Template.ofSource (conditionSource path text)) ()).answer = .ok text ∧
    (Template.render registry ctx (Template.ofSource (conditionalSource path text)) ()).answer = .ok text := by
  intro path text ctx registry
  have hpath : Expression.ofText? path = some (.operand (.simple (.path ⟨"$user", ["name"]⟩))) := by decide +kernel
  have htext : ∀ u ∈ text, u ∉ [CodeUnit.quote, CodeUnit.backslash, CodeUnit.openBrace, CodeUnit.closeBrace] :=
    List.all_iff_forall_prop.1 (by decide)
  have hholds : ctx.holds ⟨"$user", ["name"]⟩ = true := by decide +kernel
  have hsame := block_eq_conditional .empty ⟨"- ", "..."⟩ (fun _ => none) ctx () path text _ hpath htext
  simp only [hholds, if_true] at hsame
  exact ⟨⟨hpath, htext⟩, hsame⟩

end BraceTemplate
