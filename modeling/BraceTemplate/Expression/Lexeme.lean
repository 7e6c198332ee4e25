import BraceTemplate.Expression
import BraceTemplate.Number.Numeral

/-!
# Lexemes of expressions

An expression is cut, blanks apart, into the longest lexemes: words, texts in quotes of either kind,
numbers, comparison signs and four marks. In quotes a backslash stands for the unit after it.
-/

namespace BraceTemplate

/-- A lexeme of an expression. -/
inductive Lexeme where
  | word (w : Text)
  | text (t : Text)
  | number (n : Number)
  | comparison (c : Comparison)
  | openParen
  | closeParen
  | comma
  | dot
deriving DecidableEq, Repr

namespace Lexeme

/-- The text up to a closing quote, and what follows the quote. -/
def quoted? (quote : CodeUnit) : Text → Option (Text × Text)
  | [] => none
  | u :: rest =>
    if u = CodeUnit.backslash then
      match rest with
      | [] => none
      | v :: after => (quoted? quote after).map fun (t, r) => (v :: t, r)
    else if u = quote then some ([], rest)
    else (quoted? quote rest).map fun (t, r) => (u :: t, r)

/-- The digits after a point, and what follows them; a point without digits is left where it is. -/
def fraction : Text → Text × Text
  | [] => ([], [])
  | u :: rest =>
    if u = CodeUnit.point && (rest.head?.map CodeUnit.isDigit).getD false then
      Number.spanDigits rest
    else ([], u :: rest)

/-- Digits, and a point with digits if digits follow it. -/
def unsigned? (negative : Bool) (t : Text) : Option (Number × Text) :=
  let (whole, rest) := Number.spanDigits t
  if whole.isEmpty then none
  else
    let (digits, after) := fraction rest
    some (Number.ofDigits negative whole digits 0, after)

/-- An unsigned number, perhaps after a minus. -/
def number? : Text → Option (Number × Text)
  | [] => none
  | u :: rest => if u = CodeUnit.minus then unsigned? true rest else unsigned? false (u :: rest)

/-- A name, perhaps after a dollar sign. -/
def word? : Text → Option (Text × Text)
  | [] => none
  | u :: rest =>
    if u = CodeUnit.dollar then (Name.split? rest).map fun (name, r) => (u :: name, r)
    else Name.split? (u :: rest)

/-- A comparison sign; the long ones come first. -/
def comparison? (t : Text) : Option (Comparison × Text) :=
  [Comparison.equal, .unequal, .atLeast, .atMost, .greater, .less].findSome? fun c =>
    (Text.dropStart? c.sign t).map (c, ·)

/-- One of the four marks. -/
def mark? (u : CodeUnit) : Option Lexeme :=
  if u = CodeUnit.ofChar '(' then some openParen
  else if u = CodeUnit.ofChar ')' then some closeParen
  else if u = CodeUnit.comma then some comma
  else if u = CodeUnit.point then some dot
  else none

/-- The lexeme that a text begins with, and what follows it. -/
def first? (u : CodeUnit) (rest : Text) : Option (Lexeme × Text) :=
  if u = CodeUnit.quote || u = CodeUnit.apostrophe then
    (quoted? u rest).map fun (t, r) => (text t, r)
  else match number? (u :: rest) with
    | some (n, r) => some (number n, r)
    | none => match word? (u :: rest) with
      | some (w, r) => some (word w, r)
      | none => match comparison? (u :: rest) with
        | some (c, r) => some (comparison c, r)
        | none => (mark? u).map (·, rest)

/-! ## What follows a lexeme is shorter -/

theorem quoted?_length {quote : CodeUnit} {t s r : Text} (h : quoted? quote t = some (s, r)) :
    r.length < t.length := by
  fun_induction quoted? quote t generalizing s with
  | case1 => simp at h
  | case2 => simp at h
  | case3 v after ih =>
    obtain ⟨⟨s', r'⟩, hq, heq⟩ := Option.map_eq_some_iff.1 h
    simp only [Prod.mk.injEq] at heq
    obtain ⟨_, rfl⟩ := heq
    exact Nat.lt_succ_of_lt (Nat.lt_succ_of_lt (ih hq))
  | case4 =>
    simp only [Option.some.injEq, Prod.mk.injEq] at h
    obtain ⟨_, rfl⟩ := h
    exact Nat.lt_succ_self _
  | case5 u rest _ _ ih =>
    obtain ⟨⟨s', r'⟩, hq, heq⟩ := Option.map_eq_some_iff.1 h
    simp only [Prod.mk.injEq] at heq
    obtain ⟨_, rfl⟩ := heq
    exact Nat.lt_succ_of_lt (ih hq)

theorem dropWhile_length_le (p : CodeUnit → Bool) (t : Text) :
    (t.dropWhile p).length ≤ t.length :=
  (List.dropWhile_suffix p).length_le

theorem fraction_length_le (t : Text) : (fraction t).2.length ≤ t.length := by
  cases t with
  | nil => simp [fraction]
  | cons u rest =>
    simp only [fraction]
    split
    · have := dropWhile_length_le CodeUnit.isDigit rest
      simp only [Number.spanDigits, List.length_cons]
      omega
    · exact Nat.le_refl _

theorem unsigned?_length {negative : Bool} {t r : Text} {n : Number}
    (h : unsigned? negative t = some (n, r)) : r.length < t.length := by
  cases t with
  | nil => simp [unsigned?, Number.spanDigits] at h
  | cons u rest =>
    by_cases hu : u.isDigit = true
    · simp only [unsigned?, Number.spanDigits, List.takeWhile_cons, List.dropWhile_cons, hu, if_true,
        List.isEmpty_cons, Bool.false_eq_true, if_false, Option.some.injEq, Prod.mk.injEq] at h
      obtain ⟨_, rfl⟩ := h
      have h1 := fraction_length_le (rest.dropWhile CodeUnit.isDigit)
      have h2 := dropWhile_length_le CodeUnit.isDigit rest
      simp only [List.length_cons]
      omega
    · simp [unsigned?, Number.spanDigits, hu] at h

theorem number?_length {t r : Text} {n : Number} (h : number? t = some (n, r)) :
    r.length < t.length := by
  cases t with
  | nil => simp [number?] at h
  | cons u rest =>
    simp only [number?] at h
    split at h
    · exact Nat.lt_succ_of_lt (unsigned?_length h)
    · exact unsigned?_length h

theorem split?_length {t name r : Text} (h : Name.split? t = some (name, r)) :
    r.length < t.length := by
  cases t with
  | nil => simp [Name.split?] at h
  | cons u rest =>
    simp only [Name.split?] at h
    split at h
    · simp only [Option.some.injEq, Prod.mk.injEq] at h
      obtain ⟨_, rfl⟩ := h
      exact Nat.lt_succ_of_le (dropWhile_length_le CodeUnit.continuesName rest)
    · simp at h

theorem word?_length {t w r : Text} (h : word? t = some (w, r)) : r.length < t.length := by
  cases t with
  | nil => simp [word?] at h
  | cons u rest =>
    simp only [word?] at h
    split at h
    · obtain ⟨⟨name, r'⟩, hs, heq⟩ := Option.map_eq_some_iff.1 h
      simp only [Prod.mk.injEq] at heq
      obtain ⟨_, rfl⟩ := heq
      exact Nat.lt_succ_of_lt (split?_length hs)
    · exact split?_length h

theorem comparison?_length {t r : Text} {c : Comparison} (h : comparison? t = some (c, r)) :
    r.length < t.length := by
  unfold comparison? at h
  obtain ⟨c', _, hc⟩ := List.exists_of_findSome?_eq_some h
  obtain ⟨r', hd, heq⟩ := Option.map_eq_some_iff.1 hc
  simp only [Prod.mk.injEq] at heq
  obtain ⟨rfl, rfl⟩ := heq
  unfold Text.dropStart? at hd
  split at hd
  · rename_i hpre
    have hle := (List.isPrefixOf_iff_prefix.1 hpre).length_le
    simp only [Option.some.injEq] at hd
    subst hd
    have hpos : 0 < c'.sign.length := by cases c' <;> decide
    simp only [List.length_drop]
    omega
  · simp at hd

theorem first?_length {u : CodeUnit} {rest r : Text} {l : Lexeme}
    (h : first? u rest = some (l, r)) : r.length ≤ rest.length := by
  unfold first? at h
  split at h
  · obtain ⟨⟨t, r'⟩, hq, heq⟩ := Option.map_eq_some_iff.1 h
    simp only [Prod.mk.injEq] at heq
    obtain ⟨_, rfl⟩ := heq
    exact Nat.le_of_lt (quoted?_length hq)
  · split at h
    · rename_i n r' hn
      simp only [Option.some.injEq, Prod.mk.injEq] at h
      obtain ⟨_, rfl⟩ := h
      exact Nat.le_of_lt_succ (by simpa using number?_length hn)
    · split at h
      · rename_i w r' hw
        simp only [Option.some.injEq, Prod.mk.injEq] at h
        obtain ⟨_, rfl⟩ := h
        exact Nat.le_of_lt_succ (by simpa using word?_length hw)
      · split at h
        · rename_i c r' hc
          simp only [Option.some.injEq, Prod.mk.injEq] at h
          obtain ⟨_, rfl⟩ := h
          exact Nat.le_of_lt_succ (by simpa using comparison?_length hc)
        · obtain ⟨m, _, heq⟩ := Option.map_eq_some_iff.1 h
          simp only [Prod.mk.injEq] at heq
          obtain ⟨_, rfl⟩ := heq
          exact Nat.le_refl _

/-! ## All lexemes -/

/-- The lexemes of a text; none where a unit starts no lexeme or a quote is not closed. -/
def all? : Text → Option (List Lexeme)
  | [] => some []
  | u :: rest =>
    if u.isBlank then all? rest
    else match _h : first? u rest with
      | some (lexeme, after) => (all? after).map (lexeme :: ·)
      | none => none
termination_by t => t.length
decreasing_by
  · simp
  · have := first?_length _h; simp; omega

end Lexeme

end BraceTemplate
