import BraceTemplate.Number.Rounding
import Mathlib.Algebra.Group.Nat.Defs

/-!
# Whole numbers as doubles

A natural number is rounded to 53 bits. One that is a double already is kept as it is, and the decimals of a natural
number of any length come to that number rounded.

* `ofRatio_exact` — what is a mantissa and a shift already is not rounded;
* `toInt?_ofNat` — a double that is a whole number is read back from that number;
* `ofRatio_of_large` — beyond the range of doubles there are the infinities only;
* `ofDecimal_zero` — decimals without a fraction, however many, come to the natural number rounded.
-/

namespace BraceTemplate.Number

/-- Whether a number is a double: a finite one has a mantissa of 53 bits and a shift in range. -/
def IsDouble : Number → Prop
  | finite _ mantissa shift => mantissa < twoTo mantissaBits ∧ shift ≤ maxShift
  | _ => True

/-! ## Exact numbers -/

theorem roundRatio_of_dvd {num den : Nat} (hden : 0 < den) (h : den ∣ num) : roundRatio num den = num / den := by
  have hmod : num % den = 0 := Nat.mod_eq_zero_of_dvd h
  have htwice : 2 * (num % den) < den := by omega
  exact if_pos htwice

/-- The shift that rounding takes for as many units as some mantissa and shift make is at most that shift. -/
theorem log2_shiftLeft_le {mantissa : Nat} (h : mantissa < 2 ^ mantissaBits) (shift : Nat) :
    (mantissa <<< shift).log2 + 1 - mantissaBits ≤ shift := by
  by_cases hzero : mantissa <<< shift = 0
  · have hbits : 0 + 1 - mantissaBits = 0 := rfl
    rw [hzero, Nat.log2_zero, hbits]
    exact Nat.zero_le shift
  · have hlt : mantissa <<< shift < 2 ^ (mantissaBits + shift) := by
      rw [Nat.shiftLeft_eq, Nat.pow_add]
      exact Nat.mul_lt_mul_of_pos_right h (Nat.two_pow_pos shift)
    have hlog : (mantissa <<< shift).log2 < mantissaBits + shift := (Nat.log2_lt hzero).2 hlt
    omega

/-- After that shift a mantissa is left. -/
theorem div_two_pow_lt (n : Nat) : n / 2 ^ (n.log2 + 1 - mantissaBits) < 2 ^ mantissaBits := by
  apply Nat.div_lt_of_lt_mul
  rw [← Nat.pow_add]
  calc n < 2 ^ (n.log2 + 1) := Nat.lt_log2_self
    _ ≤ 2 ^ (n.log2 + 1 - mantissaBits + mantissaBits) := Nat.pow_le_pow_right (by decide) (by omega)

/-- What is a mantissa and a shift already is not rounded. -/
theorem ofRatio_exact (negative : Bool) {n mantissa shift : Nat} (hmantissa : mantissa < twoTo mantissaBits)
    (hshift : shift ≤ maxShift) (h : n <<< unitBits = mantissa <<< shift) :
    ∃ m k, ofRatio negative n 1 = finite negative m k ∧ m <<< k = n <<< unitBits := by
  have hle := log2_shiftLeft_le hmantissa shift
  have hlt := div_two_pow_lt (mantissa <<< shift)
  rw [ofRatio, h, Nat.div_one, Nat.one_shiftLeft]
  generalize (mantissa <<< shift).log2 + 1 - mantissaBits = k at hle hlt
  have hdvd : 2 ^ k ∣ mantissa <<< shift := by
    rw [Nat.shiftLeft_eq]
    exact Nat.dvd_mul_left_of_dvd (Nat.pow_dvd_pow 2 hle) mantissa
  have hne : mantissa <<< shift / 2 ^ k ≠ twoTo mantissaBits := Nat.ne_of_lt hlt
  have hrange : ¬ maxShift < k := by omega
  refine ⟨mantissa <<< shift / 2 ^ k, k, ?_, ?_⟩
  · simp only [roundRatio_of_dvd (Nat.two_pow_pos k) hdvd, if_neg hne, if_neg hrange]
  · rw [Nat.shiftLeft_eq, Nat.div_mul_cancel hdvd]

/-- Units that make a whole number, as many as the number has. -/
theorem shiftLeft_mod_twoTo (n bits : Nat) : n <<< bits % twoTo bits = 0 := by
  rw [Nat.shiftLeft_eq]
  exact Nat.mul_mod_left n (2 ^ bits)

theorem shiftRight_shiftLeft {n bits : Nat} (h : n % twoTo bits = 0) : n >>> bits <<< bits = n := by
  rw [Nat.shiftLeft_eq, Nat.shiftRight_eq_div_pow]
  exact Nat.div_mul_cancel (Nat.dvd_of_mod_eq_zero h)

theorem toInt?_of_units {negative : Bool} {mantissa shift n : Nat} (h : mantissa <<< shift = n <<< unitBits) :
    (finite negative mantissa shift).toInt? = some (if negative then -(n : Int) else n) := by
  rw [toInt?, h, if_pos (shiftLeft_mod_twoTo n unitBits), Nat.shiftLeft_shiftRight]
  rfl

theorem units_of_toInt? {negative : Bool} {mantissa shift n : Nat}
    (h : (finite negative mantissa shift).toInt? = some (n : Int)) : n <<< unitBits = mantissa <<< shift := by
  rw [toInt?] at h
  split at h
  · rename_i hmod
    have hn : mantissa <<< shift >>> unitBits = n := by
      generalize mantissa <<< shift >>> unitBits = value at h
      simp only [Option.some.injEq, Int.ofNat_eq_natCast] at h
      split at h <;> omega
    rw [← hn, shiftRight_shiftLeft hmod]
  · exact nomatch h

/-- A whole number without a minus is a natural number. -/
theorem exists_of_toInt? {mantissa shift : Nat} {k : Int} (h : (finite false mantissa shift).toInt? = some k) :
    ∃ n : Nat, k = n := by
  rw [toInt?] at h
  split at h
  · exact ⟨_, (Option.some.inj h).symm⟩
  · exact nomatch h

/-- A double that is a whole number is read back from that number. -/
theorem toInt?_ofNat {d : Number} {n : Nat} (hdouble : d.IsDouble) (h : d.toInt? = some (n : Int)) :
    (ofNat n).toInt? = some (n : Int) := by
  cases d with
  | nan => exact nomatch h
  | infinite _ => exact nomatch h
  | finite negative mantissa shift =>
    obtain ⟨m, k, hof, hunits⟩ := ofRatio_exact false hdouble.1 hdouble.2 (units_of_toInt? h)
    rw [ofNat, hof, toInt?_of_units hunits]
    rfl

theorem toInt?_ofNat_of_lt {n : Nat} (h : n < twoTo mantissaBits) : (ofNat n).toInt? = some (n : Int) := by
  have hrange : unitBits ≤ maxShift := by decide
  exact toInt?_ofNat (d := finite false n unitBits) ⟨h, hrange⟩ (toInt?_of_units rfl)

/-- A whole number that is not at least one is below one. -/
theorem ltNat_one_of_toInt? {d : Number} {k : Int} (h : d.toInt? = some k) (hk : k < 1) : d.ltNat 1 := by
  cases d with
  | nan => exact nomatch h
  | infinite _ => exact nomatch h
  | finite negative mantissa shift =>
    have hone : 0 < 1 <<< unitBits := by
      rw [Nat.one_shiftLeft]
      exact Nat.two_pow_pos unitBits
    rw [ltNat, decide_eq_true_eq, finiteUnits]
    generalize 1 <<< unitBits = one at hone
    cases negative with
    | true =>
      rw [if_pos rfl, Int.ofNat_eq_natCast, Int.ofNat_eq_natCast]
      generalize mantissa <<< shift = units
      omega
    | false =>
      have hzero : (finite false mantissa shift).toInt? = some ((0 : Nat) : Int) := by
        obtain ⟨n, rfl⟩ : ∃ n : Nat, k = n := exists_of_toInt? h
        have hn : n = 0 := by omega
        rw [h, hn]
      rw [if_neg Bool.false_ne_true, ← units_of_toInt? hzero, Nat.zero_shiftLeft]
      exact Int.ofNat_lt.2 hone

/-! ## Long decimals -/

/-- Beyond the range of doubles there are the infinities only. -/
theorem ofRatio_of_large (negative : Bool) {n : Nat} (h : 2 ^ (maxShift + mantissaBits - unitBits) ≤ n) :
    ofRatio negative n 1 = infinite negative := by
  have hunits : 2 ^ (maxShift + mantissaBits) ≤ n <<< unitBits := by
    have hadd : maxShift + mantissaBits - unitBits + unitBits = maxShift + mantissaBits := rfl
    rw [Nat.shiftLeft_eq, ← hadd, Nat.pow_add]
    exact Nat.mul_le_mul_right _ h
  have hne : n <<< unitBits ≠ 0 := Nat.ne_of_gt (Nat.lt_of_lt_of_le (Nat.two_pow_pos _) hunits)
  have hlog : maxShift + mantissaBits ≤ (n <<< unitBits).log2 := (Nat.le_log2 hne).2 hunits
  have hshift : maxShift < (n <<< unitBits).log2 + 1 - mantissaBits := by omega
  rw [ofRatio, Nat.div_one]
  generalize roundRatio _ _ = mantissa
  generalize (n <<< unitBits).log2 + 1 - mantissaBits = shift at hshift
  by_cases hcarry : mantissa = twoTo mantissaBits
  · simp only [if_pos hcarry, if_pos (Nat.lt_succ_of_lt hshift)]
  · simp only [if_neg hcarry, if_pos hshift]

/-- Decimals without a fraction, however many, come to the natural number rounded. -/
theorem ofDecimal_zero (negative : Bool) (n : Nat) : ofDecimal negative n 0 = ofRatio negative n 1 := by
  by_cases hzero : n = 0
  · rw [hzero]
    rfl
  · by_cases hlong : (Nat.toDigits 10 n).length ≤ decimalRange
    · have hbelow : ¬ (0 : Int) + (Nat.toDigits 10 n).length > decimalRange := by omega
      have habove : ¬ (0 : Int) + (Nat.toDigits 10 n).length < -(decimalRange : Int) := by omega
      rw [ofDecimal.eq_def, if_neg hzero]
      simp only [if_neg hbelow, if_neg habove]
      exact congrArg (ofRatio negative · 1) (Nat.mul_one n)
    · have habove : (0 : Int) + (Nat.toDigits 10 n).length > decimalRange := by omega
      have hlarge : 2 ^ (maxShift + mantissaBits - unitBits) ≤ n := by
        have hdigits : 10 ^ decimalRange ≤ n :=
          Nat.le_of_not_lt fun hlt => hlong ((Nat.length_toDigits_le_iff (by decide) (by decide)).2 hlt)
        calc 2 ^ (maxShift + mantissaBits - unitBits) ≤ 2 ^ (3 * decimalRange) :=
              Nat.pow_le_pow_right (by decide) (by decide)
          _ = (2 ^ 3) ^ decimalRange := Nat.pow_mul 2 3 decimalRange
          _ ≤ 10 ^ decimalRange := Nat.pow_le_pow_left (by decide) decimalRange
          _ ≤ n := hdigits
      rw [ofRatio_of_large negative hlarge, ofDecimal.eq_def, if_neg hzero]
      simp only [if_pos habove]

end BraceTemplate.Number
