import BraceTemplate.Proofs.Grammar
import Mathlib.Data.List.DropRight

/-!
# Blanks at the ends

The body of a tag is trimmed before it is read, and so is what follows its block word. No lexeme ends in a
blank, so blanks at the ends of a text are between lexemes: what a text spells does not depend on them.

* `cut_concat_blank_iff` — a blank at the end changes no cut;
* `ofText?_trimStart`, `ofText?_trimEnd` — a text spells what it spells trimmed.
-/

namespace BraceTemplate

theorem CodeUnit.isBlank_of_continuesName {u : CodeUnit} (h : u.continuesName) : u.isBlank = false := by
  have hkinds : Lexeme.startsNumber u ∨ Lexeme.startsWord u := by
    simp only [continuesName, Bool.or_eq_true, decide_eq_true_eq] at h
    rcases h with (hletter | hdigit) | hunderscore
    · exact .inr (by simp [Lexeme.startsWord, startsName, hletter])
    · exact .inl (by simp [Lexeme.startsNumber, hdigit])
    · exact .inr (by simp [Lexeme.startsWord, startsName, hunderscore])
  rcases hkinds with hnumber | hword
  · exact (Lexeme.startsNumber_excludes hnumber).2
  · exact (Lexeme.startsWord_excludes hword).2.2

theorem CodeUnit.isBlank_of_isDigit {u : CodeUnit} (h : u.isDigit) : u.isBlank = false :=
  isBlank_of_continuesName (by simp [continuesName, h])

theorem CodeUnit.continuesName_of_startsName {u : CodeUnit} (h : u.startsName) : u.continuesName := by
  simp only [startsName, Bool.or_eq_true] at h
  rcases h with hletter | hunderscore
  · simp [continuesName, hletter]
  · simp [continuesName, hunderscore]

/-- A name has a first unit, and every unit can go on with a name. -/
theorem Name.exists_cons_of_isValid {name : Text} (h : isValid name) :
    ∃ u rest, name = u :: rest ∧ u.startsName ∧ ∀ v ∈ name, v.continuesName := by
  cases name with
  | nil => simp [isValid] at h
  | cons u rest =>
    obtain ⟨hu, hrest⟩ : u.startsName ∧ ∀ v ∈ rest, v.continuesName := by simpa [isValid] using h
    exact ⟨u, rest, rfl, hu, List.forall_mem_cons.2 ⟨CodeUnit.continuesName_of_startsName hu, hrest⟩⟩

/-! ## Trimming -/

namespace Text

theorem trimEnd_concat_blank {u : CodeUnit} (hu : u.isBlank) (t : Text) : trimEnd (t ++ [u]) = trimEnd t :=
  List.rdropWhile_concat_pos CodeUnit.isBlank t u hu

theorem trimEnd_concat {u : CodeUnit} (hu : u.isBlank = false) (t : Text) :
    trimEnd (t ++ [u]) = t ++ [u] := by
  have hne : ¬ u.isBlank = true := by simp [hu]
  exact List.rdropWhile_concat_neg CodeUnit.isBlank t u hne

/-- What stands before a unit that is no blank is not trimmed at the end. -/
theorem trimEnd_append (s : Text) {t : Text} (h : ∃ u ∈ t, u.isBlank = false) :
    trimEnd (s ++ t) = s ++ trimEnd t := by
  induction t using List.reverseRecOn with
  | nil => simp at h
  | append_singleton t u ih =>
    rw [← List.append_assoc]
    by_cases hu : u.isBlank
    · have hbefore : ∃ v ∈ t, v.isBlank = false := by
        obtain ⟨v, hv, hvBlank⟩ := h
        rcases List.mem_append.1 hv with hv | hv
        · exact ⟨v, hv, hvBlank⟩
        · rw [List.mem_singleton.1 hv, hu] at hvBlank
          exact absurd hvBlank.symm Bool.false_ne_true
      rw [trimEnd_concat_blank hu, trimEnd_concat_blank hu, ih hbefore]
    · have hu' : u.isBlank = false := Bool.eq_false_iff.2 hu
      rw [trimEnd_concat hu', trimEnd_concat hu', List.append_assoc]

theorem trimStart_cons_blank {u : CodeUnit} (hu : u.isBlank) (t : Text) : trimStart (u :: t) = trimStart t :=
  List.dropWhile_cons_of_pos hu

theorem trimStart_cons {u : CodeUnit} (hu : u.isBlank = false) (t : Text) :
    trimStart (u :: t) = u :: t := by
  have hne : ¬ u.isBlank = true := by simp [hu]
  exact List.dropWhile_cons_of_neg hne

/-- Something is left of a text that is not all blanks. -/
theorem trimStart_ne_nil {t : Text} (h : ∃ u ∈ t, u.isBlank = false) : trimStart t ≠ [] := by
  obtain ⟨u, hu, hblank⟩ := h
  intro hnil
  have hall := List.dropWhile_eq_nil_iff.1 hnil u hu
  rw [hblank] at hall
  exact Bool.false_ne_true hall

theorem exists_mem_trimEnd {t : Text} (h : ∃ u ∈ t, u.isBlank = false) :
    ∃ u ∈ trimEnd t, u.isBlank = false := by
  obtain ⟨u, hu, hblank⟩ := h
  have hne : trimEnd t ≠ [] := by
    intro hnil
    have hall := (List.rdropWhile_eq_nil_iff (p := CodeUnit.isBlank)).1 hnil u hu
    rw [hblank] at hall
    exact Bool.false_ne_true hall
  exact ⟨_, List.getLast_mem hne, Bool.eq_false_iff.2 (List.rdropWhile_last_not CodeUnit.isBlank t hne)⟩

/-- Of a text that begins with no blank and ends in `t`, only the end of `t` is trimmed. -/
theorem trim_append {u : CodeUnit} (hu : u.isBlank = false) (s : Text) {t : Text}
    (h : ∃ v ∈ t, v.isBlank = false) : trim (u :: s ++ t) = u :: s ++ trimEnd t := by
  have hstart : trimStart (u :: s ++ t) = u :: s ++ t := trimStart_cons hu (s ++ t)
  rw [trim, hstart, trimEnd_append (u :: s) h]

/-- Blanks in front are what trimming the start removes. -/
theorem trimStart_append {blanks t : Text} (hblanks : ∀ u ∈ blanks, u.isBlank)
    (ht : ∀ u ∈ t.head?, u.isBlank = false) : trimStart (blanks ++ t) = t := by
  rw [trimStart, List.dropWhile_append_of_pos hblanks]
  cases t with
  | nil => rfl
  | cons u rest => exact trimStart_cons (ht u rfl) rest

theorem trimEnd_append_blanks (t : Text) {blanks : Text} (hblanks : ∀ u ∈ blanks, u.isBlank) :
    trimEnd (t ++ blanks) = trimEnd t := by
  have hreverse : ∀ u ∈ blanks.reverse, u.isBlank := fun u hu => hblanks u (List.mem_reverse.1 hu)
  rw [trimEnd, trimEnd, List.reverse_append, List.dropWhile_append_of_pos hreverse]

/-- Of a text between blanks the blanks are trimmed. -/
theorem trim_append_blanks {before t after : Text} (hbefore : ∀ u ∈ before, u.isBlank)
    (ht : ∀ u ∈ t, u.isBlank = false) (hafter : ∀ u ∈ after, u.isBlank) : trim (before ++ (t ++ after)) = t := by
  rcases List.eq_nil_or_concat' t with rfl | ⟨front, last, rfl⟩
  · have hall : ∀ u ∈ before ++ after, u.isBlank := List.forall_mem_append.2 ⟨hbefore, hafter⟩
    rw [List.nil_append, trim, trimStart, List.dropWhile_eq_nil_iff.2 hall]
    rfl
  · have hfirst : ∀ u ∈ (front ++ [last] ++ after).head?, u.isBlank = false := by
      intro u hu
      rw [List.head?_append_of_ne_nil _ (List.append_ne_nil_of_right_ne_nil front (List.cons_ne_nil last []))] at hu
      exact ht u (List.mem_of_mem_head? hu)
    rw [trim, trimStart_append hbefore hfirst, trimEnd_append_blanks _ hafter, trimEnd_concat (ht last (by simp))]

/-- A text is its trimmed text between blanks. -/
theorem exists_eq_append_trim (t : Text) : ∃ before after, t = before ++ (t.trim ++ after) ∧
    (∀ u ∈ before, u.isBlank) ∧ ∀ u ∈ after, u.isBlank := by
  have hstart := List.takeWhile_append_dropWhile (p := CodeUnit.isBlank) (l := t)
  have hend := List.takeWhile_append_dropWhile (p := CodeUnit.isBlank) (l := t.trimStart.reverse)
  refine ⟨t.takeWhile CodeUnit.isBlank, (t.trimStart.reverse.takeWhile CodeUnit.isBlank).reverse, ?_, ?_, ?_⟩
  · rw [trim, trimEnd, ← List.reverse_append, hend, List.reverse_reverse]
    exact hstart.symm
  · intro u hu
    exact List.mem_takeWhile_imp hu
  · intro u hu
    exact List.mem_takeWhile_imp (List.mem_reverse.1 hu)

end Text

/-! ## Cuts -/

namespace Lexeme

theorem exists_last_of_unsigned {negative : Bool} {n : Number} {s : Text} (h : Number.Unsigned negative n s) :
    ∃ t u, s = t ++ [u] ∧ u.isBlank = false := by
  cases h with
  | whole hne hdigits =>
    obtain ⟨t, u, rfl⟩ := (List.eq_nil_or_concat' s).resolve_left hne
    exact ⟨t, u, rfl, CodeUnit.isBlank_of_isDigit (hdigits u (by simp))⟩
  | @fraction digits decimals _ _ hne hdecimals =>
    obtain ⟨t, u, rfl⟩ := (List.eq_nil_or_concat' decimals).resolve_left hne
    refine ⟨digits ++ CodeUnit.point :: t, u, by simp, ?_⟩
    exact CodeUnit.isBlank_of_isDigit (hdecimals u (by simp))

theorem exists_last_of_isValid {w : Text} (h : Name.isValid w) : ∃ t u, w = t ++ [u] ∧ u.isBlank = false := by
  obtain ⟨v, rest, hcons, -, hall⟩ := Name.exists_cons_of_isValid h
  have hne : w ≠ [] := hcons ▸ List.cons_ne_nil v rest
  obtain ⟨t, u, rfl⟩ := (List.eq_nil_or_concat' w).resolve_left hne
  exact ⟨t, u, rfl, CodeUnit.isBlank_of_continuesName (hall u (by simp))⟩

/-- No spelling ends in a blank. -/
theorem exists_last_of_spelling {l : Lexeme} {s : Text} (h : Spelling l s) :
    ∃ t u, s = t ++ [u] ∧ u.isBlank = false := by
  cases h with
  | word hw =>
    cases hw with
    | name hname => exact exists_last_of_isValid hname
    | root hname =>
      obtain ⟨t, u, rfl, hu⟩ := exists_last_of_isValid hname
      exact ⟨CodeUnit.dollar :: t, u, rfl, hu⟩
  | @text quote t s hquote _ =>
    refine ⟨quote :: s, quote, rfl, ?_⟩
    rcases hquote with rfl | rfl <;> decide
  | number hn =>
    cases hn with
    | unsigned hunsigned => exact exists_last_of_unsigned hunsigned
    | negative hunsigned =>
      obtain ⟨t, u, rfl, hu⟩ := exists_last_of_unsigned hunsigned
      exact ⟨CodeUnit.minus :: t, u, rfl, hu⟩
  | comparison c =>
    cases c with
    | equal => exact ⟨[0x3D], 0x3D, rfl, by decide⟩
    | unequal => exact ⟨[0x21], 0x3D, rfl, by decide⟩
    | greater => exact ⟨[], 0x3E, rfl, by decide⟩
    | less => exact ⟨[], 0x3C, rfl, by decide⟩
    | atLeast => exact ⟨[0x3E], 0x3D, rfl, by decide⟩
    | atMost => exact ⟨[0x3C], 0x3D, rfl, by decide⟩
  | openParen => exact ⟨[], 0x28, rfl, by decide⟩
  | closeParen => exact ⟨[], 0x29, rfl, by decide⟩
  | comma => exact ⟨[], 0x2C, rfl, by decide⟩
  | dot => exact ⟨[], 0x2E, rfl, by decide⟩

/-- A blank at the end is part of no spelling, so the longest spelling is the same with it. -/
theorem longest_concat_blank_iff {l : Lexeme} {s t : Text} {u : CodeUnit} (hu : u.isBlank) :
    Longest l s (t ++ [u]) ↔ Longest l s t := by
  constructor
  · rintro ⟨hs, hlongest⟩
    refine ⟨hs, fun l' s' hs' hbegins => hlongest l' s' hs' (hbegins.trans ?_)⟩
    rw [← List.append_assoc]
    exact List.prefix_append _ _
  · rintro ⟨hs, hlongest⟩
    refine ⟨hs, fun l' s' hs' hbegins => ?_⟩
    rw [← List.append_assoc, List.prefix_concat_iff] at hbegins
    rcases hbegins with rfl | hbegins
    · obtain ⟨t', v, heq, hv⟩ := exists_last_of_spelling hs'
      obtain ⟨-, huv⟩ := List.append_inj' heq rfl
      rw [List.singleton_inj.1 huv, hv] at hu
      exact absurd hu Bool.false_ne_true
    · exact hlongest l' s' hs' hbegins

theorem cut_concat_blank {t : Text} {ls : List Lexeme} {u : CodeUnit} (hu : u.isBlank) (h : Cut t ls) :
    Cut (t ++ [u]) ls := by
  induction h with
  | nil => exact .blank hu .nil
  | blank hv _ ih => exact .blank hv ih
  | lexeme hl _ ih =>
    rw [List.append_assoc]
    exact .lexeme ((longest_concat_blank_iff hu).2 hl) ih

theorem cut_of_concat_blank {t t' : Text} {ls : List Lexeme} {u : CodeUnit} (hu : u.isBlank)
    (h : Cut t' ls) (ht : t' = t ++ [u]) : Cut t ls := by
  induction h generalizing t with
  | nil => simp at ht
  | @blank v rest ls hv hrest ih =>
    rcases t with _ | ⟨w, t⟩
    · -- the blank at the end is the only one
      obtain ⟨-, rfl⟩ := List.cons.inj ht
      exact hrest
    · obtain ⟨rfl, rfl⟩ := List.cons.inj ht
      exact .blank hv (ih rfl)
  | @lexeme l s rest ls hl hrest ih =>
    rcases List.eq_nil_or_concat' rest with rfl | ⟨rest, v, rfl⟩
    · -- a lexeme does not end in the blank
      obtain ⟨s', v, rfl, hv⟩ := exists_last_of_spelling hl.1
      rw [List.append_nil] at ht
      obtain ⟨-, huv⟩ := List.append_inj' ht rfl
      rw [← List.singleton_inj.1 huv, hv] at hu
      exact absurd hu Bool.false_ne_true
    · rw [← List.append_assoc] at ht
      obtain ⟨rfl, huv⟩ := List.append_inj' ht rfl
      obtain rfl := List.singleton_inj.1 huv
      exact .lexeme ((longest_concat_blank_iff hu).1 hl) (ih rfl)

/-- A blank at the end changes no cut. -/
theorem cut_concat_blank_iff {t : Text} {ls : List Lexeme} {u : CodeUnit} (hu : u.isBlank) :
    Cut (t ++ [u]) ls ↔ Cut t ls :=
  ⟨fun h => cut_of_concat_blank hu h rfl, cut_concat_blank hu⟩

theorem all?_concat_blank {u : CodeUnit} (hu : u.isBlank) (t : Text) : all? (t ++ [u]) = all? t := by
  apply Option.ext
  intro ls
  rw [all?_eq_some_iff, all?_eq_some_iff]
  exact cut_concat_blank_iff hu

theorem all?_trimEnd (t : Text) : all? t.trimEnd = all? t := by
  induction t using List.reverseRecOn with
  | nil => rfl
  | append_singleton t u ih =>
    by_cases hu : u.isBlank
    · rw [Text.trimEnd_concat_blank hu, all?_concat_blank hu, ih]
    · rw [Text.trimEnd_concat (Bool.eq_false_iff.2 hu)]

theorem all?_trimStart (t : Text) : all? t.trimStart = all? t := by
  induction t with
  | nil => rfl
  | cons u t ih =>
    by_cases hu : u.isBlank
    · rw [Text.trimStart_cons_blank hu, all?_blank hu, ih]
    · rw [Text.trimStart_cons (Bool.eq_false_iff.2 hu)]

end Lexeme

/-! ## Expressions -/

namespace Expression

theorem ofText?_trimEnd (t : Text) : ofText? t.trimEnd = ofText? t := by
  rw [ofText?, ofText?, Lexeme.all?_trimEnd]

theorem ofText?_trimStart (t : Text) : ofText? t.trimStart = ofText? t := by
  rw [ofText?, ofText?, Lexeme.all?_trimStart]

theorem ofText?_trim (t : Text) : ofText? t.trim = ofText? t := by
  rw [Text.trim, ofText?_trimEnd, ofText?_trimStart]

end Expression

end BraceTemplate
