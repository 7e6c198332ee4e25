import BraceTemplate.Text
import Mathlib.Data.List.Chain

/-!
# Code points and code units

A text is read as code points and written from them again. Reading what was written gives the code points back, unless
two of them stand side by side that are the halves of a pair. That can only happen to surrogates, so code points may be
replaced by others that are none without a pair coming about.

* `Text.points_ofPoints` — what was written is read;
* `Text.isPoints_points` — what was read has no two halves side by side;
* `Text.Replaced.isPoints` — nor has what the code points are replaced by.
-/

namespace BraceTemplate

/-! ## Units of a pair -/

namespace CodeUnit

theorem isHighSurrogate_iff {u : CodeUnit} : u.isHighSurrogate ↔ 0xD800 ≤ u.toNat ∧ u.toNat ≤ 0xDBFF := by
  simp [isHighSurrogate, UInt16.le_iff_toNat_le]

theorem isLowSurrogate_iff {u : CodeUnit} : u.isLowSurrogate ↔ 0xDC00 ≤ u.toNat ∧ u.toNat ≤ 0xDFFF := by
  simp [isLowSurrogate, UInt16.le_iff_toNat_le]

end CodeUnit

namespace Text

/-- Whether two code points would be read as one if they stood side by side. -/
def Pairs (p q : Nat) : Prop :=
  (0xD800 ≤ p ∧ p ≤ 0xDBFF) ∧ 0xDC00 ≤ q ∧ q ≤ 0xDFFF

/-- Code points as they can be read from a text. -/
structure IsPoints (ps : List Nat) : Prop where
  lt : ∀ p ∈ ps, p < 0x110000
  apart : ps.IsChain fun p q => ¬ Pairs p q

/-! ## Writing and reading -/

theorem ofPoint_of_lt {p : Nat} (h : p < 0x10000) : ofPoint p = [p.toUInt16] ∧ p.toUInt16.toNat = p := by
  refine ⟨if_pos h, ?_⟩
  simp only [Nat.toUInt16_eq, UInt16.toNat_ofNat']
  omega

/-- Above the basic plane two units are written, the halves of a pair that is read as the code point. -/
theorem ofPoint_of_le {p : Nat} (h : 0x10000 ≤ p) (hlt : p < 0x110000) : ∃ high low : CodeUnit,
    ofPoint p = [high, low] ∧ high.isHighSurrogate ∧ low.isLowSurrogate ∧ CodeUnit.pairPoint high low = p := by
  have hhigh : (0xD800 + (p - 0x10000) / 0x400).toUInt16.toNat = 0xD800 + (p - 0x10000) / 0x400 := by
    simp only [Nat.toUInt16_eq, UInt16.toNat_ofNat']
    omega
  have hlow : (0xDC00 + (p - 0x10000) % 0x400).toUInt16.toNat = 0xDC00 + (p - 0x10000) % 0x400 := by
    simp only [Nat.toUInt16_eq, UInt16.toNat_ofNat']
    omega
  refine ⟨_, _, if_neg (by omega), ?_, ?_, ?_⟩
  · rw [CodeUnit.isHighSurrogate_iff, hhigh]
    omega
  · rw [CodeUnit.isLowSurrogate_iff, hlow]
    omega
  · unfold CodeUnit.pairPoint
    omega

theorem points_pair {u v : CodeUnit} (hu : u.isHighSurrogate) (hv : v.isLowSurrogate) (rest : Text) :
    points (u :: v :: rest) = CodeUnit.pairPoint u v :: points rest := by
  rw [points, if_pos (by simp [hu, hv])]

/-- A unit that is not the first half of a pair is read by itself. -/
theorem points_unit {u : CodeUnit} {rest : Text} (h : u.isHighSurrogate → ∀ v ∈ rest.head?, ¬ v.isLowSurrogate) :
    points (u :: rest) = u.toNat :: points rest := by
  cases rest with
  | nil => rfl
  | cons v rest =>
    have hpair : ¬ (u.isHighSurrogate && v.isLowSurrogate) = true := by
      rw [Bool.and_eq_true]
      rintro ⟨hu, hv⟩
      exact h hu v rfl hv
    rw [points, if_neg hpair]

/-- The first unit of a code point is the second half of a pair only if the code point is. -/
theorem le_of_head?_ofPoint {p : Nat} (hp : p < 0x110000) {u : CodeUnit} (hu : u ∈ (ofPoint p).head?)
    (hlow : u.isLowSurrogate) : 0xDC00 ≤ p ∧ p ≤ 0xDFFF := by
  rcases Nat.lt_or_ge p 0x10000 with hlt | hge
  · rcases ofPoint_of_lt hlt with ⟨hwritten, hvalue⟩
    rw [hwritten, List.head?_cons, Option.mem_some_iff] at hu
    rwa [← hu, CodeUnit.isLowSurrogate_iff, hvalue] at hlow
  · rcases ofPoint_of_le hge hp with ⟨high, low, hwritten, hhigh, -, -⟩
    rw [hwritten, List.head?_cons, Option.mem_some_iff] at hu
    rw [hu, CodeUnit.isHighSurrogate_iff] at hhigh
    rw [CodeUnit.isLowSurrogate_iff] at hlow
    omega

theorem ofPoint_ne_nil (p : Nat) : ofPoint p ≠ [] := by
  unfold ofPoint
  split <;> simp

/-- What was written is read. -/
theorem points_ofPoints {ps : List Nat} (h : IsPoints ps) : points (ofPoints ps) = ps := by
  induction ps with
  | nil => rfl
  | cons p rest ih =>
    rcases h with ⟨hlt, hapart⟩
    rcases List.forall_mem_cons.1 hlt with ⟨hp, hrest⟩
    rw [List.isChain_cons] at hapart
    have hread : points (ofPoints rest) = rest := ih ⟨hrest, hapart.2⟩
    have hcons : ofPoints (p :: rest) = ofPoint p ++ ofPoints rest := List.flatMap_cons
    rcases Nat.lt_or_ge p 0x10000 with hbasic | habove
    · rcases ofPoint_of_lt hbasic with ⟨hwritten, hvalue⟩
      rw [hcons, hwritten, List.singleton_append, points_unit, hread, hvalue]
      -- a second half behind a first one would stand at the beginning of the next code point
      intro hhigh v hv hlow
      rw [CodeUnit.isHighSurrogate_iff, hvalue] at hhigh
      cases rest with
      | nil => simp [ofPoints] at hv
      | cons q rest =>
        have hhead : v ∈ (ofPoint q).head? := by
          rwa [ofPoints, List.flatMap_cons, List.head?_append_of_ne_nil _ (ofPoint_ne_nil q)] at hv
        have hq := le_of_head?_ofPoint (hrest q List.mem_cons_self) hhead hlow
        exact hapart.1 q rfl ⟨hhigh, hq⟩
    · rcases ofPoint_of_le habove hp with ⟨high, low, hwritten, hhigh, hlow, hvalue⟩
      rw [hcons, hwritten, List.cons_append, List.singleton_append, points_pair hhigh hlow, hvalue, hread]

/-- Different code points are written differently. -/
theorem ofPoints_inj {ps qs : List Nat} (hps : IsPoints ps) (hqs : IsPoints qs) :
    ofPoints ps = ofPoints qs ↔ ps = qs := by
  constructor
  · intro h
    rw [← points_ofPoints hps, h, points_ofPoints hqs]
  · exact congrArg ofPoints

/-- What was read has no two halves side by side: they would have been read as one. -/
theorem isPoints_points (t : Text) : IsPoints (points t) ∧
    ∀ q ∈ (points t).head?, 0x10000 ≤ q ∨ ∃ u ∈ t.head?, u.toNat = q := by
  fun_induction points t with
  | case1 => exact ⟨⟨by simp, .nil⟩, by simp⟩
  | case2 u =>
    have hu := u.toNat_lt
    exact ⟨⟨by simp; omega, .singleton _⟩, by simp⟩
  | case3 u v rest hpair ih =>
    rw [Bool.and_eq_true, CodeUnit.isHighSurrogate_iff, CodeUnit.isLowSurrogate_iff] at hpair
    have hlow : 0x10000 ≤ CodeUnit.pairPoint u v := by
      unfold CodeUnit.pairPoint
      omega
    have hhigh : CodeUnit.pairPoint u v < 0x110000 := by
      unfold CodeUnit.pairPoint
      omega
    refine ⟨⟨List.forall_mem_cons.2 ⟨hhigh, ih.1.lt⟩, List.isChain_cons.2 ⟨?_, ih.1.apart⟩⟩, by simp [hlow]⟩
    -- above the basic plane there are no halves
    rintro q - ⟨⟨-, hle⟩, -⟩
    omega
  | case4 u v rest hpair ih =>
    have hu := u.toNat_lt
    refine ⟨⟨List.forall_mem_cons.2 ⟨by omega, ih.1.lt⟩, List.isChain_cons.2 ⟨?_, ih.1.apart⟩⟩, by simp⟩
    -- the code point behind is that of the next unit, with which this one made no pair
    rintro q hq ⟨hhigh, hlow⟩
    rcases ih.2 q hq with habove | ⟨w, hw, rfl⟩
    · omega
    · obtain rfl : v = w := by simpa using hw
      rw [Bool.and_eq_true, CodeUnit.isHighSurrogate_iff, CodeUnit.isLowSurrogate_iff] at hpair
      exact hpair ⟨hhigh, hlow⟩

/-! ## Replacing code points -/

/-- Whether a code point is a character by itself, and so no half of a pair. -/
def IsScalar (p : Nat) : Prop :=
  p < 0xD800 ∨ 0xE000 ≤ p ∧ p < 0x110000

instance (p : Nat) : Decidable (IsScalar p) :=
  inferInstanceAs (Decidable (_ ∨ _))

/-- What may stand for a code point: itself, or one or more characters. -/
def Replaces (p : Nat) (qs : List Nat) : Prop :=
  qs = [p] ∨ qs ≠ [] ∧ ∀ q ∈ qs, IsScalar q

/-- Code points each of which was replaced, in their order. -/
inductive Replaced : List Nat → List Nat → Prop where
  | nil : Replaced [] []
  | cons {p : Nat} {ps qs rs : List Nat} (h : Replaces p qs) (hrest : Replaced ps rs) :
      Replaced (p :: ps) (qs ++ rs)

theorem not_pairs_of_isScalar_left {p q : Nat} (h : IsScalar p) : ¬ Pairs p q := by
  unfold IsScalar at h
  unfold Pairs
  omega

theorem not_pairs_of_isScalar_right {p q : Nat} (h : IsScalar q) : ¬ Pairs p q := by
  unfold IsScalar at h
  unfold Pairs
  omega

/-- Characters may stand before any code points. -/
theorem IsPoints.append {qs rs : List Nat} (hqs : ∀ q ∈ qs, IsScalar q) (hrs : IsPoints rs) : IsPoints (qs ++ rs) := by
  induction qs with
  | nil => exact hrs
  | cons q qs ih =>
    rcases List.forall_mem_cons.1 hqs with ⟨hq, hrest⟩
    have hlater : IsPoints (qs ++ rs) := ih hrest
    have hlt : q < 0x110000 := by
      unfold IsScalar at hq
      omega
    exact ⟨List.forall_mem_cons.2 ⟨hlt, hlater.lt⟩,
      List.isChain_cons.2 ⟨fun _ _ => not_pairs_of_isScalar_left hq, hlater.apart⟩⟩

/-- Replacing brings no pair about: what stands first is as before, or a character. -/
theorem Replaced.isPoints {ps qs : List Nat} (h : Replaced ps qs) (hps : IsPoints ps) :
    IsPoints qs ∧ ∀ q ∈ qs.head?, q ∈ ps.head? ∨ IsScalar q := by
  induction h with
  | nil => exact ⟨hps, by simp⟩
  | @cons p ps qs rs hreplaces hrest ih =>
    rcases hps with ⟨hlt, hapart⟩
    rcases List.forall_mem_cons.1 hlt with ⟨hp, hltRest⟩
    rw [List.isChain_cons] at hapart
    rcases ih ⟨hltRest, hapart.2⟩ with ⟨hpoints, hhead⟩
    rcases hreplaces with rfl | ⟨hne, hscalar⟩
    · refine ⟨⟨List.forall_mem_cons.2 ⟨hp, hpoints.lt⟩, List.isChain_cons.2 ⟨?_, hpoints.apart⟩⟩, by simp⟩
      intro q hq
      rcases hhead q hq with hsame | hq
      · exact hapart.1 q hsame
      · exact not_pairs_of_isScalar_right hq
    · refine ⟨hpoints.append hscalar, ?_⟩
      intro q hq
      rw [List.head?_append_of_ne_nil _ hne] at hq
      exact Or.inr (hscalar q (List.mem_of_mem_head? hq))

end Text

end BraceTemplate
