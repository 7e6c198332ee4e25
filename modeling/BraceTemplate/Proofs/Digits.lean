import BraceTemplate.Text
import Mathlib.Data.List.Induction
import Mathlib.Tactic.Ring

/-!
# Decimal digits

A natural number is written in decimal digits and read back from them. Zeros in front do not count, so a number that is
filled up to a width has the same value.

* `isDigit_of_mem_ofNat`, `isDigit_of_mem_ofNatPadded` — nothing but digits is written;
* `length_ofNatPadded` — a number that fits the width is written in that many digits;
* `ofNatPadded_eq_ofNat_iff` — which numbers are filled up;
* `digitsValue_ofNatPadded` — what is written is read back;
* `ofNat_digitsValue` — digits without a zero in front are written as they were read.
-/

namespace BraceTemplate.Text

/-! ## Writing -/

/-- The unit of a digit. -/
theorem ofChar_digitChar {d : Nat} (h : d < 10) :
    (CodeUnit.ofChar d.digitChar).isDigit ∧ (CodeUnit.ofChar d.digitChar).digitValue = d := by
  have hall : ∀ d < 10, (CodeUnit.ofChar (Nat.digitChar d)).isDigit ∧
      (CodeUnit.ofChar (Nat.digitChar d)).digitValue = d := by decide
  exact hall d h

theorem ofNat_of_lt {n : Nat} (h : n < 10) : ofNat n = [CodeUnit.ofChar n.digitChar] := by
  rw [ofNat, Nat.toDigits_of_lt_base h]
  rfl

theorem ofNat_of_le {n : Nat} (h : 10 ≤ n) : ofNat n = ofNat (n / 10) ++ ofNat (n % 10) := by
  rw [ofNat_of_lt (Nat.mod_lt n (by decide)), ofNat, Nat.toDigits_of_base_le (by decide) h, List.map_append]
  rfl

theorem isDigit_of_mem_ofNat {n : Nat} {u : CodeUnit} (h : u ∈ ofNat n) : u.isDigit := by
  induction n using Nat.strongRecOn with
  | ind n ih =>
    by_cases hlt : n < 10
    · rw [ofNat_of_lt hlt, List.mem_singleton] at h
      rw [h]
      exact (ofChar_digitChar hlt).1
    · rw [ofNat_of_le (by omega), List.mem_append] at h
      rcases h with h | h
      · exact ih (n / 10) (by omega) h
      · exact ih (n % 10) (by omega) h

theorem length_ofNat_le_iff {n k : Nat} (hk : 0 < k) : (ofNat n).length ≤ k ↔ n < 10 ^ k := by
  rw [ofNat, List.length_map]
  exact Nat.length_toDigits_le_iff (by decide) hk

theorem isDigit_of_mem_ofNatPadded {width n : Nat} {u : CodeUnit} (h : u ∈ ofNatPadded width n) : u.isDigit := by
  rcases List.mem_append.1 h with h | h
  · rw [List.eq_of_mem_replicate h]
    rfl
  · exact isDigit_of_mem_ofNat h

/-- A number that fits the width fills it exactly. -/
theorem length_ofNatPadded {width n : Nat} (hwidth : 0 < width) (h : n < 10 ^ width) :
    (ofNatPadded width n).length = width := by
  have hle : (ofNat n).length ≤ width := (length_ofNat_le_iff hwidth).2 h
  rw [ofNatPadded, List.length_append, List.length_replicate]
  omega

/-- A number is as long as the width, or longer, exactly if nothing is filled up. -/
theorem ofNatPadded_eq_ofNat_iff {width n : Nat} (hwidth : 0 < width) :
    ofNatPadded (width + 1) n = ofNat n ↔ 10 ^ width ≤ n := by
  have hfits : (ofNat n).length ≤ width ↔ n < 10 ^ width := length_ofNat_le_iff hwidth
  constructor
  · intro h
    have hlength := congrArg List.length h
    rw [ofNatPadded, List.length_append, List.length_replicate] at hlength
    omega
  · intro h
    have hnone : width + 1 - (ofNat n).length = 0 := by omega
    rw [ofNatPadded, hnone, List.replicate_zero, List.nil_append]

/-! ## Reading -/

/-- Each digit that follows makes ten of what stands before it. -/
theorem digitsValue_append (a b : Text) : digitsValue (a ++ b) = digitsValue a * 10 ^ b.length + digitsValue b := by
  have hfold : ∀ (b : Text) (n : Nat), b.foldl (fun n u => 10 * n + u.digitValue) n =
      n * 10 ^ b.length + digitsValue b := by
    intro b
    induction b with
    | nil => simp [digitsValue]
    | cons u rest ih =>
      intro n
      rw [digitsValue, List.foldl_cons, List.foldl_cons, ih, ih (10 * 0 + _), List.length_cons, Nat.pow_succ]
      ring
  rw [digitsValue, List.foldl_append]
  exact hfold b _

theorem digitsValue_ofNat (n : Nat) : digitsValue (ofNat n) = n := by
  induction n using Nat.strongRecOn with
  | ind n ih =>
    by_cases hlt : n < 10
    · rw [ofNat_of_lt hlt]
      exact (Nat.zero_add _).trans (ofChar_digitChar hlt).2
    · have hlast : (ofNat (n % 10)).length = 1 := by
        rw [ofNat_of_lt (Nat.mod_lt n (by decide))]
        rfl
      rw [ofNat_of_le (by omega), digitsValue_append, ih (n / 10) (by omega), ih (n % 10) (by omega), hlast]
      omega

theorem digitsValue_replicate_zero (k : Nat) : digitsValue (List.replicate k CodeUnit.zero) = 0 := by
  induction k with
  | zero => rfl
  | succ k ih => exact ih

theorem digitsValue_ofNatPadded (width n : Nat) : digitsValue (ofNatPadded width n) = n := by
  rw [ofNatPadded, digitsValue_append, digitsValue_replicate_zero, digitsValue_ofNat]
  omega

/-- A digit is the unit of its value. -/
theorem ofNat_digitValue {u : CodeUnit} (h : u.isDigit) : ofNat u.digitValue = [u] := by
  simp only [CodeUnit.isDigit, Bool.and_eq_true, decide_eq_true_eq, UInt16.le_iff_toNat_le, UInt16.reduceToNat] at h
  have hunit : ∀ d < 10, CodeUnit.ofChar (Nat.digitChar d) = UInt16.ofNat (0x30 + d) := by decide
  have hvalue : 0x30 + u.digitValue = u.toNat := by
    rw [CodeUnit.digitValue]
    omega
  have hlt : u.digitValue < 10 := by omega
  rw [ofNat_of_lt hlt, hunit _ hlt, hvalue, UInt16.ofNat_toNat]

/-- Digits that do not begin with a zero, or are just one, are written as they are. -/
theorem ofNat_digitsValue {t : Text} (hdigits : ∀ u ∈ t, u.isDigit) (hne : t ≠ [])
    (hhead : t.length = 1 ∨ t.head? ≠ some CodeUnit.zero) : ofNat (digitsValue t) = t := by
  induction t using List.reverseRecOn with
  | nil => exact absurd rfl hne
  | append_singleton front u ih =>
    rcases List.forall_mem_append.1 hdigits with ⟨hfront, hlast⟩
    have hu : ofNat u.digitValue = [u] := ofNat_digitValue (hlast u List.mem_cons_self)
    have hlt : u.digitValue < 10 := (length_ofNat_le_iff Nat.one_pos).1 (by rw [hu]; rfl)
    have hvalue : digitsValue (front ++ [u]) = digitsValue front * 10 + u.digitValue := by
      rw [digitsValue_append]
      simp [digitsValue]
    rw [hvalue]
    cases front with
    | nil => simpa [digitsValue] using hu
    | cons v rest =>
      have hzero : v ≠ CodeUnit.zero := by
        rintro rfl
        simp at hhead
      have hread : ofNat (digitsValue (v :: rest)) = v :: rest := ih hfront (by simp) (.inr (by simp [hzero]))
      -- the digits in front are not worth zero, so there is a digit to be written before the last one
      have hpositive : digitsValue (v :: rest) ≠ 0 := by
        intro hworth
        have hfirst : ofNat 0 = v :: rest := by rw [← hworth, hread]
        exact hzero (List.cons.inj hfirst).1.symm
      have htenth : (digitsValue (v :: rest) * 10 + u.digitValue) / 10 = digitsValue (v :: rest) := by omega
      have hunits : (digitsValue (v :: rest) * 10 + u.digitValue) % 10 = u.digitValue := by omega
      rw [ofNat_of_le (by omega), htenth, hunits, hread, hu]

/-- Zeros in front do not count. -/
theorem digitsValue_dropWhile_zero (digits : Text) :
    digitsValue (digits.dropWhile (· = CodeUnit.zero)) = digitsValue digits := by
  induction digits with
  | nil => rfl
  | cons u rest ih =>
    by_cases hzero : u = CodeUnit.zero
    · rw [List.dropWhile_cons_of_pos (by simp [hzero]), ih, hzero]
      rfl
    · rw [List.dropWhile_cons_of_neg (by simp [hzero])]

end BraceTemplate.Text
