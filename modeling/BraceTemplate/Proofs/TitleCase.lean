import BraceTemplate.Proofs.CaseMappings
import Mathlib.Data.List.Basic

/-!
# Title case twice

A text in title case is lower-cased and raised again on the second pass. The code points go through both passes side
by side. A letter is raised at the same places, unless the first pass changed what comes before it: the upper case of
some letters is a capital with a mark behind it, which is no letter, so a small letter next to it begins a word on the
second pass only. The upper case of others is several capitals, of which the second pass leaves only the first.

* `Case.raised_again` — what both passes make of one raised letter;
* `Case.titled_again` — the run over all code points;
* `Text.title_case_stays_iff` — the texts that title case leaves alone the second time.
-/

namespace BraceTemplate

namespace Case

/-! ## Upper case that does not stay -/

/-- Whether a letter comes before what follows some code points. -/
def afterLetter (before : Bool) (ps : List Nat) : Bool :=
  ps.foldl (fun _ p => Letter.isLetter p) before

/-- Whether the upper case of a code point has a capital directly behind a letter, as that of `ß` has. -/
def spreads (p : Nat) : Bool :=
  ((upperPoint p).zip (upperPoint p).tail).any fun (u, v) => Letter.isLetter u && lowerPoint v != [v]

/-- Whether the upper case of a code point ends in a mark of its own, as that of `ẖ` does. -/
def detaches (p : Nat) : Bool :=
  Nat.ble 2 (upperPoint p).length && !afterLetter false (upperPoint p)

/-- Whether a code point is a small letter that is not its own upper case. -/
def rises (p : Nat) : Bool :=
  Letter.isLowercase p && upperPoint p != [p]

example : spreads 0xDF ∧ detaches 0x1E96 ∧ rises 0x61 := by decide +kernel

theorem afterLetter_eq_false_iff {ps : List Nat} :
    afterLetter false ps = false ↔ ∀ q ∈ ps.getLast?, ¬ Letter.isLetter q := by
  rcases List.eq_nil_or_concat ps with rfl | ⟨before, p, rfl⟩
  · simp [afterLetter]
  · simp [afterLetter]

theorem titlePoints_append (b : Bool) (ps qs : List Nat) :
    titlePoints b (ps ++ qs) = titlePoints b ps ++ titlePoints (afterLetter b ps) qs := by
  induction ps generalizing b with
  | nil => rfl
  | cons p ps ih => simp [titlePoints, ih, afterLetter]

theorem titlePoints_singleton (b : Bool) (p : Nat) :
    titlePoints b [p] = if !b && Letter.isLowercase p then upperPoint p else [p] :=
  List.append_nil _

/-! ## Lower case of a part -/

/-- Only a capital sigma depends on its neighbours. -/
theorem lowerPoints_append {us : List Nat} (h : capitalSigma ∉ us) (cased : Bool) (rest : List Nat) :
    ∃ after, lowerPoints cased (us ++ rest) = us.flatMap lowerPoint ++ lowerPoints after rest := by
  induction us generalizing cased with
  | nil => exact ⟨cased, rfl⟩
  | cons u us ih =>
    rw [List.mem_cons, not_or] at h
    rcases ih h.2 (if isIgnorable u then cased else isCased u) with ⟨after, hrest⟩
    refine ⟨after, ?_⟩
    rw [List.cons_append, lowerPoints, hrest, List.flatMap_cons, List.append_assoc]
    simp [Ne.symm h.1]

/-- A code point that lower case leaves alone is no capital sigma. -/
theorem ne_capitalSigma {p : Nat} (h : lowerPoint p = [p]) : p ≠ capitalSigma := by
  rintro rfl
  exact absurd h (by decide +kernel)

theorem lowerPoints_cons {p : Nat} (h : lowerPoint p = [p]) (cased : Bool) (rest : List Nat) :
    ∃ after, lowerPoints cased (p :: rest) = p :: lowerPoints after rest := by
  have hsigma : capitalSigma ∉ [p] := by simpa using (ne_capitalSigma h).symm
  simpa [h] using lowerPoints_append hsigma cased rest

/-- Lower case gives code points that it leaves alone. -/
theorem lowerPoint_of_mem_lowerPoints {cased : Bool} {ps : List Nat} {q : Nat} (h : q ∈ lowerPoints cased ps) :
    lowerPoint q = [q] := by
  induction ps generalizing cased with
  | nil => cases h
  | cons p ps ih =>
    rw [lowerPoints, List.mem_append] at h
    rcases h with hhere | hrest
    · split_ifs at hhere
      · obtain rfl : q = finalSigma := List.mem_singleton.1 hhere
        decide +kernel
      · exact lowerPoint_of_mem hhere
    · exact ih hrest

/-! ## One raised letter -/

/-- Whether code points are at least as many as before, and the same ones exactly under a condition. -/
structure Stays (before now : List Nat) (condition : Prop) : Prop where
  length_le : before.length ≤ now.length
  eq_iff : now = before ↔ condition

theorem stays_nil {P : Prop} : Stays [] [] P ↔ P :=
  ⟨fun h => h.eq_iff.1 rfl, fun h => ⟨Nat.le_refl _, by simp [h]⟩⟩

theorem stays_self (xs : List Nat) : Stays xs xs True :=
  ⟨Nat.le_refl _, by simp⟩

theorem Stays.append {xs xs' zs zs' : List Nat} {P Q : Prop} (h : Stays xs zs P) (h' : Stays xs' zs' Q) :
    Stays (xs ++ xs') (zs ++ zs') (P ∧ Q) := by
  have hle := h.length_le
  have hle' := h'.length_le
  refine ⟨by simp only [List.length_append]; omega, ?_⟩
  rw [← h.eq_iff, ← h'.eq_iff]
  constructor
  · intro heq
    have hlength := congrArg List.length heq
    simp only [List.length_append] at hlength
    exact List.append_inj heq (by omega)
  · rintro ⟨rfl, rfl⟩
    rfl

/-- What the second pass makes of upper case that is several code points, read off the table. -/
theorem upperSequences_again : ∀ e ∈ upperSequences, Letter.isLowercase e.1 →
    Letter.isLetter e.1 ∧ capitalSigma ∉ e.2 ∧
      e.2.length ≤ (titlePoints false (e.2.flatMap lowerPoint)).length ∧
      (titlePoints false (e.2.flatMap lowerPoint) = e.2 ↔ ¬ spreads e.1) ∧
      afterLetter false (e.2.flatMap lowerPoint) = !detaches e.1 := by
  decide +kernel

/-- A capital goes back to a small letter of which it is the upper case, a capital sigma to either of two. -/
theorem lowerPoints_capital {p u : Nat} (hlowercase : Letter.isLowercase p) (hlower : lowerPoint p = [p])
    (hupper : upperPoint p = [u]) (cased : Bool) (rest : List Nat) : ∃ q after,
    lowerPoints cased (u :: rest) = q :: lowerPoints after rest ∧ Letter.isLowercase q ∧ upperPoint q = [u] ∧
      Letter.isLetter q = Letter.isLetter p := by
  rcases upperPoint_returns hlowercase hlower hupper with ⟨q, hq, hsmall, hback, hletter⟩
  rw [lowerPoints]
  generalize (if isIgnorable u then cased else isCased u) = after
  split_ifs with hfinal
  · -- at the end of a word, where the final sigma comes in the place of the small one
    simp only [Bool.and_eq_true, decide_eq_true_eq] at hfinal
    obtain rfl : u = capitalSigma := hfinal.1.1
    obtain rfl : q = 0x3C3 := by
      have hsigma : lowerPoint capitalSigma = [0x3C3] := by decide +kernel
      simpa [hsigma] using hq.symm
    refine ⟨finalSigma, after, rfl, by decide +kernel, by decide +kernel, ?_⟩
    rw [← hletter]
    decide +kernel
  · exact ⟨q, after, by rw [hq]; rfl, hsmall, hback, hletter⟩

/-- What becomes of a raised letter that is lower-cased: raised again it stays, unless capitals spread, and a letter
comes before what follows as it did, unless a mark got detached. -/
structure Again (p : Nat) (ds : List Nat) : Prop where
  stays : Stays (upperPoint p) (titlePoints false ds) (¬ spreads p)
  afterLetter_eq : afterLetter false ds = (Letter.isLetter p && !detaches p)
  isLetter : detaches p → Letter.isLetter p

theorem again_of_singleton {p q u : Nat} (hupper : upperPoint p = [u]) (hsmall : Letter.isLowercase q)
    (hback : upperPoint q = [u]) (hletter : Letter.isLetter q = Letter.isLetter p) : Again p [q] := by
  have hspreads : ¬ spreads p := by simp [spreads, hupper]
  have hdetaches : detaches p = false := by simp [detaches, hupper]
  have htitled : titlePoints false [q] = upperPoint p := by
    rw [titlePoints_singleton, if_pos (by simpa using hsmall), hback, hupper]
  refine ⟨?_, ?_, by simp [hdetaches]⟩
  · rw [htitled]
    exact ⟨Nat.le_refl _, by simp [hspreads]⟩
  · simpa [afterLetter, hdetaches] using hletter

/-- Both passes over one raised letter, whatever follows it. -/
theorem raised_again {p : Nat} (hlowercase : Letter.isLowercase p) (hlower : lowerPoint p = [p]) (cased : Bool)
    (rest : List Nat) :
    ∃ ds after, lowerPoints cased (upperPoint p ++ rest) = ds ++ lowerPoints after rest ∧ Again p ds := by
  have hsingle : ∀ u, upperPoint p = [u] →
      ∃ ds after, lowerPoints cased ([u] ++ rest) = ds ++ lowerPoints after rest ∧ Again p ds := by
    intro u hupper
    rcases lowerPoints_capital hlowercase hlower hupper cased rest with ⟨q, after, hlowered, hsmall, hback, hletter⟩
    exact ⟨[q], after, hlowered, again_of_singleton hupper hsmall hback hletter⟩
  have hmapped := mapped_upperPoint p
  generalize hupper : upperPoint p = us at hmapped
  cases hmapped with
  | sequence hmem =>
    rcases upperSequences_again _ hmem hlowercase with ⟨hletter, hsigma, hlength, heq, hafter⟩
    rcases lowerPoints_append hsigma cased rest with ⟨after, hlowered⟩
    exact ⟨_, after, hlowered, by rw [hupper]; exact ⟨hlength, heq⟩, by simp [hafter, hletter], fun _ => hletter⟩
  | alone => exact hsingle p hupper
  | image hrun hholds => exact hsingle _ hupper

theorem upperPoint_ne_nil (p : Nat) : upperPoint p ≠ [] := by
  rcases replaces_upperPoint p with h | h
  · simp [h]
  · exact h.1

/-- What a code point becomes that only the second pass takes for the beginning of a word. -/
theorem stays_rises (p : Nat) :
    Stays [p] (if !false && Letter.isLowercase p then upperPoint p else [p]) (¬ rises p) := by
  rcases hlowercase : Letter.isLowercase p with _ | _
  · simpa [rises, hlowercase] using stays_self [p]
  · exact ⟨List.length_pos_iff.2 (upperPoint_ne_nil p), by simp [rises, hlowercase]⟩

/-! ## All code points -/

/-- Whether the code points of a text in lower case, raised once, stay as they are when they are raised again. -/
def TitledOnce (b : Bool) : List Nat → Prop
  | [] => True
  | p :: rest =>
    (b = false → Letter.isLowercase p → ¬ spreads p ∧ (detaches p → ∀ q ∈ rest.head?, ¬ rises q)) ∧
      TitledOnce (Letter.isLetter p) rest

theorem titledOnce_iff {b : Bool} {ps : List Nat} : TitledOnce b ps ↔
    ∀ before p after, ps = before ++ p :: after → afterLetter b before = false → Letter.isLowercase p →
      ¬ spreads p ∧ (detaches p → ∀ q ∈ after.head?, ¬ rises q) := by
  induction ps generalizing b with
  | nil => simp [TitledOnce]
  | cons p ps ih =>
    rw [TitledOnce, ih]
    constructor
    · rintro ⟨hhere, hrest⟩ before q after hsplit
      cases before with
      | nil =>
        obtain ⟨rfl, rfl⟩ := List.cons.inj hsplit
        exact hhere
      | cons r before =>
        obtain ⟨rfl, rfl⟩ := List.cons.inj hsplit
        exact hrest before q after rfl
    · intro h
      exact ⟨h [] p ps rfl, fun before q after hsplit => h (p :: before) q after (by rw [hsplit]; rfl)⟩

/-- Both passes over code points in lower case. They go alike while both are behind a letter or neither is; behind a
detached mark only the first one is. -/
theorem titled_again {ps : List Nat} (hps : ∀ p ∈ ps, lowerPoint p = [p]) :
    (∀ b cased, Stays (titlePoints b ps) (titlePoints b (lowerPoints cased (titlePoints b ps))) (TitledOnce b ps)) ∧
      ∀ cased, Stays (titlePoints true ps) (titlePoints false (lowerPoints cased (titlePoints true ps)))
        ((∀ q ∈ ps.head?, ¬ rises q) ∧ TitledOnce true ps) := by
  induction ps with
  | nil => simp [titlePoints, lowerPoints, TitledOnce, stays_nil]
  | cons p ps ih =>
    rcases List.forall_mem_cons.1 hps with ⟨hlower, hrest⟩
    rcases ih hrest with ⟨halike, hbehind⟩
    constructor
    · -- both behind a letter, or neither
      intro b cased
      rcases hraise : (!b && Letter.isLowercase p) with _ | _
      · have hleft : ∀ rest, titlePoints b (p :: rest) = [p] ++ titlePoints (Letter.isLetter p) rest := fun rest => by
          simp [titlePoints, hraise]
        rcases lowerPoints_cons hlower cased (titlePoints (Letter.isLetter p) ps) with ⟨after, hlowered⟩
        rw [hleft, List.singleton_append, hlowered, hleft]
        have hcondition : TitledOnce b (p :: ps) ↔ True ∧ TitledOnce (Letter.isLetter p) ps := by
          cases b <;> simp_all [TitledOnce]
        rw [hcondition]
        exact (stays_self [p]).append (halike (Letter.isLetter p) after)
      · obtain ⟨rfl, hlowercase⟩ : b = false ∧ Letter.isLowercase p = true := by simpa using hraise
        rw [titlePoints, if_pos hraise]
        rcases raised_again hlowercase hlower cased (titlePoints (Letter.isLetter p) ps) with
          ⟨ds, after, hlowered, hstays, hafter, hletter⟩
        rw [hlowered, titlePoints_append, hafter]
        rcases hdetaches : detaches p with _ | _
        · simpa [TitledOnce, hlowercase, hdetaches] using hstays.append (halike (Letter.isLetter p) after)
        · -- `p` is a letter and the mark behind its capital is none: the passes part
          rw [hletter hdetaches]
          simpa [TitledOnce, hlowercase, hdetaches, hletter hdetaches, and_assoc] using hstays.append (hbehind after)
    · -- only the first behind a letter: it leaves `p` as it is
      intro cased
      rcases lowerPoints_cons hlower cased (titlePoints (Letter.isLetter p) ps) with ⟨after, hlowered⟩
      have hfirst : titlePoints true (p :: ps) = [p] ++ titlePoints (Letter.isLetter p) ps := rfl
      rw [hfirst, List.singleton_append, hlowered, titlePoints]
      have hcondition : (∀ q ∈ (p :: ps).head?, ¬ rises q) ∧ TitledOnce true (p :: ps) ↔
          ¬ rises p ∧ TitledOnce (Letter.isLetter p) ps := by
        simp [TitledOnce]
      rw [hcondition]
      exact (stays_rises p).append (halike (Letter.isLetter p) after)

end Case

namespace Text

open Case

/-! ## Texts -/

theorem replaced_lowerPoints (cased : Bool) (ps : List Nat) : Replaced ps (lowerPoints cased ps) := by
  induction ps generalizing cased with
  | nil => exact .nil
  | cons p ps ih =>
    refine .cons ?_ (ih _)
    split_ifs
    · exact Or.inr ⟨List.cons_ne_nil _ _, by decide +kernel⟩
    · exact replaces_lowerPoint p

theorem replaced_titlePoints (b : Bool) (ps : List Nat) : Replaced ps (titlePoints b ps) := by
  induction ps generalizing b with
  | nil => exact .nil
  | cons p ps ih =>
    refine .cons ?_ (ih _)
    split_ifs
    · exact replaces_upperPoint p
    · exact Or.inl rfl

theorem isPoints_lowerPoints {ps : List Nat} (h : IsPoints ps) : IsPoints (lowerPoints false ps) :=
  ((replaced_lowerPoints false ps).isPoints h).1

theorem isPoints_titlePoints {ps : List Nat} (h : IsPoints ps) : IsPoints (titlePoints false ps) :=
  ((replaced_titlePoints false ps).isPoints h).1

theorem points_lower (t : Text) : t.lower.points = lowerPoints false t.points :=
  points_ofPoints (isPoints_lowerPoints (isPoints_points t).1)

theorem points_titleCase (t : Text) : t.titleCase.points = titlePoints false t.lower.points :=
  points_ofPoints (isPoints_titlePoints (isPoints_points t.lower).1)

/-- Title case leaves a text alone the second time exactly if, in the text in lower case, no small letter at the
beginning of a word has an upper case with a capital directly behind a letter, and none with a detached mark comes
before a small letter that has another upper case. -/
theorem title_case_stays_iff (t : Text) : t.titleCase.titleCase = t.titleCase ↔
    ∀ before p after, t.lower.points = before ++ p :: after → (∀ q ∈ before.getLast?, ¬ Letter.isLetter q) →
      Letter.isLowercase p → ¬ spreads p ∧ (detaches p → ∀ q ∈ after.head?, ¬ rises q) := by
  have hlow : ∀ p ∈ t.lower.points, lowerPoint p = [p] := by
    intro p hp
    rw [points_lower] at hp
    exact lowerPoint_of_mem_lowerPoints hp
  have hagain : t.titleCase.titleCase = t.titleCase ↔
      titlePoints false (lowerPoints false (titlePoints false t.lower.points)) = titlePoints false t.lower.points := by
    have hfirst : IsPoints (titlePoints false t.lower.points) := isPoints_titlePoints (isPoints_points t.lower).1
    rw [titleCase, points_lower, points_titleCase, titleCase]
    exact ofPoints_inj (isPoints_titlePoints (isPoints_lowerPoints hfirst)) hfirst
  rw [hagain, ((titled_again hlow).1 false false).eq_iff, titledOnce_iff]
  simp only [afterLetter_eq_false_iff]

/-- The first pass takes the line off the `ẖ`, so the `a` behind it begins a word for the second one. -/
theorem detached_mark_begins_a_word :
    titleCase (titleCase [0x1E96, 0x61]) ≠ titleCase [0x1E96, 0x61] := by
  decide +kernel

end Text

end BraceTemplate
