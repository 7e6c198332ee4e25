import BraceTemplate.Proofs.CodePoints
import BraceTemplate.Text.Case
import Mathlib.Data.List.Chain

/-!
# The case mappings on the second pass

What holds of all code points is read off the tables a run at a time: two runs lie apart, or one takes the images of
the other back. Only the few runs that no other takes back are looked at one code point after another.

* `Case.lowerPoint_of_mem` — what lower case gives, it leaves alone;
* `Case.upperPoint_returns` — a small letter with one capital is the same for it as what lower case makes of the
  capital;
* `Case.replaces_lowerPoint`, `Case.replaces_upperPoint` — a code point stays, or characters come in its place.
-/

namespace BraceTemplate

/-! ## Runs -/

namespace CaseRun

/-- The code points of a run. -/
def Holds (run : CaseRun) (p : Nat) : Prop :=
  run.first ≤ p ∧ p ≤ run.last ∧ run.stride ∣ p - run.first

/-- What a code point of a run is mapped to. -/
def shift (run : CaseRun) (p : Nat) : Nat :=
  run.image + (p - run.first)

/-- All from the first code point of a run to the last. -/
def points (run : CaseRun) : List Nat :=
  List.range' run.first (run.last - run.first + 1)

theorem Holds.mem_points {run : CaseRun} {p : Nat} (h : run.Holds p) : p ∈ run.points := by
  rcases h with ⟨hfirst, hlast, -⟩
  rw [points, List.mem_range'_1]
  omega

/-- An image comes from a run that holds the code point. -/
theorem exists_of_image? {p q : Nat} {runs : List CaseRun} (h : image? p runs = some q) :
    ∃ run ∈ runs, run.Holds p ∧ run.shift p = q := by
  induction runs with
  | nil => cases h
  | cons run rest ih =>
    rw [image?] at h
    split_ifs at h with hfirst hlast hstride
    · have hholds : run.Holds p := ⟨by omega, hlast, Nat.dvd_of_mod_eq_zero hstride⟩
      exact ⟨run, List.mem_cons_self, hholds, Option.some.inj h⟩
    · rcases ih h with ⟨found, hmem, hfound⟩
      exact ⟨found, List.mem_cons_of_mem run hmem, hfound⟩

/-- Whether a run ends before the next one begins. -/
def Before (run next : CaseRun) : Prop :=
  run.first ≤ run.last ∧ run.last < next.first

instance (run next : CaseRun) : Decidable (Before run next) :=
  inferInstanceAs (Decidable (_ ∧ _))

instance : IsTrans CaseRun Before where
  trans r s t hrs hst := by
    unfold Before at *
    omega

/-- In an ascending list every run is reached. -/
theorem image?_of_holds {runs : List CaseRun} (hascends : runs.IsChain Before) {run : CaseRun} (hrun : run ∈ runs)
    {p : Nat} (h : run.Holds p) : image? p runs = some (run.shift p) := by
  rcases h with ⟨hfirst, hlast, hstride⟩
  induction runs with
  | nil => cases hrun
  | cons head rest ih =>
    rw [image?]
    rcases List.mem_cons.1 hrun with rfl | hrest
    · rw [if_neg (by omega), if_pos hlast, if_pos (Nat.mod_eq_zero_of_dvd hstride)]
      rfl
    · have hbefore : Before head run := List.rel_of_pairwise_cons (List.isChain_iff_pairwise.1 hascends) hrest
      unfold Before at hbefore
      rw [if_neg (by omega), if_neg (by omega)]
      exact ih hascends.tail hrest

/-! ### Two runs -/

/-- Whether a run holds at most every other code point. -/
def alternates (run : CaseRun) : Bool :=
  run.stride % 2 == 0 || run.first == run.last

/-- Whether no code point of a run is mapped into another one: they lie apart, or take turns. -/
def avoids (run other : CaseRun) : Bool :=
  (run.shift run.last).blt other.first || other.last.blt run.image ||
    run.alternates && other.alternates && (run.image + other.first) % 2 == 1

/-- Whether another run takes the images of a run back. -/
def returns (run other : CaseRun) : Bool :=
  other.first.ble run.image && (run.shift run.last).ble other.last && (run.image - other.first) % other.stride == 0 &&
    run.stride % other.stride == 0 && other.shift run.image == run.first

/-- Whether all images of a run are characters. -/
def isScalar (run : CaseRun) : Bool :=
  (run.shift run.last).blt 0xD800 || Nat.ble 0xE000 run.image && (run.shift run.last).blt 0x110000

variable {run other : CaseRun} {p : Nat}

theorem Holds.two_dvd (h : run.Holds p) (halternates : run.alternates) : 2 ∣ p - run.first := by
  rcases h with ⟨hfirst, hlast, hstride⟩
  simp only [alternates, Bool.or_eq_true, beq_iff_eq] at halternates
  rcases halternates with heven | hsingle
  · exact Nat.dvd_trans (Nat.dvd_of_mod_eq_zero heven) hstride
  · exact ⟨0, by omega⟩

theorem Holds.shift_le (h : run.Holds p) : run.image ≤ run.shift p ∧ run.shift p ≤ run.shift run.last := by
  rcases h with ⟨hfirst, hlast, -⟩
  unfold shift
  omega

theorem Holds.not_holds_shift (h : run.Holds p) (havoids : run.avoids other) : ¬ other.Holds (run.shift p) := by
  intro hother
  have hbounds := h.shift_le
  simp only [avoids, Bool.or_eq_true, Bool.and_eq_true, Nat.blt_eq, beq_iff_eq] at havoids
  rcases havoids with (hbelow | habove) | ⟨⟨hrun, hturn⟩, hodd⟩
  · have := hother.1
    omega
  · have := hother.2.1
    omega
  · have hhere : 2 ∣ p - run.first := h.two_dvd hrun
    have hthere : 2 ∣ run.shift p - other.first := hother.two_dvd hturn
    have hfirst := hother.1
    unfold shift at hthere hfirst
    omega

theorem Holds.returns (h : run.Holds p) (hreturns : run.returns other) :
    other.Holds (run.shift p) ∧ other.shift (run.shift p) = p := by
  have hbounds := h.shift_le
  rcases h with ⟨hfirst, -, hstride⟩
  simp only [CaseRun.returns, Bool.and_eq_true, Nat.ble_eq, beq_iff_eq] at hreturns
  rcases hreturns with ⟨⟨⟨⟨hbegin, hend⟩, himage⟩, hstrides⟩, hback⟩
  refine ⟨⟨by omega, by omega, ?_⟩, ?_⟩
  · have hsplit : run.shift p - other.first = (run.image - other.first) + (p - run.first) := by
      unfold shift
      omega
    rw [hsplit]
    exact Nat.dvd_add (Nat.dvd_of_mod_eq_zero himage) (Nat.dvd_trans (Nat.dvd_of_mod_eq_zero hstrides) hstride)
  · unfold shift at *
    omega

theorem Holds.isScalar (h : run.Holds p) (hscalar : run.isScalar) : Text.IsScalar (run.shift p) := by
  have hbounds := h.shift_le
  simp only [CaseRun.isScalar, Bool.or_eq_true, Bool.and_eq_true, Nat.blt_eq, Nat.ble_eq] at hscalar
  unfold Text.IsScalar
  omega

end CaseRun

/-! ## The tables -/

namespace Case

/-- A code point found in a table of sequences stands there with its sequence. -/
theorem mem_of_lookup {p : Nat} {ps : List Nat} {table : List (Nat × List Nat)} (h : table.lookup p = some ps) :
    (p, ps) ∈ table := by
  rcases List.lookup_eq_some_iff.1 h with ⟨before, after, htable, -⟩
  rw [htable]
  exact List.mem_append_right before List.mem_cons_self

/-- What a code point is mapped to: its sequence, itself, or its image in a run. -/
inductive Mapped (table : List (Nat × List Nat)) (runs : List CaseRun) (p : Nat) : List Nat → Prop where
  | sequence {ps : List Nat} (h : (p, ps) ∈ table) : Mapped table runs p ps
  | alone : Mapped table runs p [p]
  | image {run : CaseRun} (hrun : run ∈ runs) (h : run.Holds p) : Mapped table runs p [run.shift p]

theorem mapped_getD (table : List (Nat × List Nat)) (runs : List CaseRun) (p : Nat) :
    Mapped table runs p ((table.lookup p).getD [(CaseRun.image? p runs).getD p]) := by
  rcases hlookup : table.lookup p with _ | ps
  · rcases himage : CaseRun.image? p runs with _ | q
    · exact .alone
    · rcases CaseRun.exists_of_image? himage with ⟨run, hrun, hholds, rfl⟩
      exact .image hrun hholds
  · exact .sequence (mem_of_lookup hlookup)

theorem lowerPoint_eq_getD (p : Nat) :
    lowerPoint p = (lowerSequences.lookup p).getD [(CaseRun.image? p lowerRuns).getD p] := by
  unfold lowerPoint
  split <;> simp [*]

theorem upperPoint_eq_getD (p : Nat) :
    upperPoint p = (upperSequences.lookup p).getD [(CaseRun.image? p upperRuns).getD p] := by
  unfold upperPoint
  split <;> simp [*]

theorem mapped_lowerPoint (p : Nat) : Mapped lowerSequences lowerRuns p (lowerPoint p) :=
  lowerPoint_eq_getD p ▸ mapped_getD _ _ p

theorem mapped_upperPoint (p : Nat) : Mapped upperSequences upperRuns p (upperPoint p) :=
  upperPoint_eq_getD p ▸ mapped_getD _ _ p

/-! ### Lower case -/

theorem lowerRuns_ascend : lowerRuns.IsChain CaseRun.Before := by decide +kernel

theorem lowerSequences_apart : ∀ e ∈ lowerSequences, CaseRun.image? e.1 lowerRuns = none := by decide +kernel

theorem lowerPoint_of_holds {run : CaseRun} (hrun : run ∈ lowerRuns) {p : Nat} (h : run.Holds p) :
    lowerPoint p = [run.shift p] := by
  have himage : CaseRun.image? p lowerRuns = some (run.shift p) := CaseRun.image?_of_holds lowerRuns_ascend hrun h
  have hsequence : lowerSequences.lookup p = none := by
    rw [Option.eq_none_iff_forall_ne_some]
    intro ps hps
    rw [lowerSequences_apart _ (mem_of_lookup hps)] at himage
    cases himage
  rw [lowerPoint_eq_getD, hsequence, himage]
  rfl

/-- The code points that lower case does not leave alone, in runs. -/
def loweredRuns : List CaseRun :=
  lowerSequences.map (fun (p, _) => ⟨p, p, 1, p⟩) ++ lowerRuns

theorem lowerPoint_eq_self {p : Nat} (h : ∀ run ∈ loweredRuns, ¬ run.Holds p) : lowerPoint p = [p] := by
  have hmapped := mapped_lowerPoint p
  generalize lowerPoint p = ps at hmapped
  cases hmapped with
  | sequence hmem =>
    have hholds : CaseRun.Holds ⟨p, p, 1, p⟩ p := ⟨Nat.le_refl p, Nat.le_refl p, Nat.one_dvd _⟩
    exact absurd hholds (h _ (List.mem_append_left _ (List.mem_map_of_mem hmem)))
  | alone => rfl
  | image hrun hholds => exact absurd hholds (h _ (List.mem_append_right _ hrun))

theorem lowerSequences_avoid : ∀ e ∈ lowerSequences, ∀ q ∈ e.2, lowerPoint q = [q] := by decide +kernel

theorem lowerRuns_avoid : lowerRuns.all (fun run => loweredRuns.all run.avoids) = true := by decide +kernel

/-- What lower case gives, it leaves alone. -/
theorem lowerPoint_of_mem {p q : Nat} (h : q ∈ lowerPoint p) : lowerPoint q = [q] := by
  have hmapped := mapped_lowerPoint p
  generalize hlower : lowerPoint p = ps at h hmapped
  cases hmapped with
  | sequence hmem => exact lowerSequences_avoid _ hmem q h
  | alone =>
    obtain rfl : q = p := List.mem_singleton.1 h
    exact hlower
  | @image run hrun hholds =>
    obtain rfl : q = run.shift p := List.mem_singleton.1 h
    -- no run holds an image, and no sequence is found for one
    apply lowerPoint_eq_self
    intro other hother
    exact hholds.not_holds_shift (List.all_eq_true.1 (List.all_eq_true.1 lowerRuns_avoid run hrun) other hother)

/-! ### Capitals and their small letters -/

/-- Whether a capital is lowered to one small letter of which it is the upper case, a letter if `p` is one. -/
def settles (p capital : Nat) : Bool :=
  match lowerPoint capital with
  | [q] => Letter.isLowercase q && upperPoint q == [capital] && Letter.isLetter q == Letter.isLetter p
  | _ => false

theorem exists_of_settles {p u : Nat} (h : settles p u) :
    ∃ q, lowerPoint u = [q] ∧ Letter.isLowercase q ∧ upperPoint q = [u] ∧ Letter.isLetter q = Letter.isLetter p := by
  unfold settles at h
  split at h
  next q hq =>
    simp only [Bool.and_eq_true, beq_iff_eq] at h
    exact ⟨q, hq, h.1.1, h.1.2, h.2⟩
  next => cases h

theorem upperRuns_return : upperRuns.all (fun run => lowerRuns.any run.returns ||
    run.points.all fun p => !Letter.isLowercase p || settles p (run.shift p)) = true := by
  decide +kernel

theorem upperSequences_expand : ∀ e ∈ upperSequences, 2 ≤ e.2.length := by decide +kernel

/-- A capital that is all of a small letter's upper case is lowered to a small letter with the same upper case. -/
theorem upperPoint_returns {p u : Nat} (hlowercase : Letter.isLowercase p) (hlower : lowerPoint p = [p])
    (hupper : upperPoint p = [u]) :
    ∃ q, lowerPoint u = [q] ∧ Letter.isLowercase q ∧ upperPoint q = [u] ∧ Letter.isLetter q = Letter.isLetter p := by
  have hmapped := mapped_upperPoint p
  rw [hupper] at hmapped
  cases hmapped with
  | sequence hmem => exact absurd (upperSequences_expand _ hmem) (by simp)
  | alone => exact ⟨p, hlower, hlowercase, hupper, rfl⟩
  | @image run hrun hholds =>
    have hcase := List.all_eq_true.1 upperRuns_return run hrun
    rw [Bool.or_eq_true, List.any_eq_true, List.all_eq_true] at hcase
    rcases hcase with ⟨back, hback, hreturns⟩ | hpoints
    · rcases hholds.returns hreturns with ⟨hheld, hreturned⟩
      have hlowered : lowerPoint (run.shift p) = [p] := by rw [lowerPoint_of_holds hback hheld, hreturned]
      exact ⟨p, hlowered, hlowercase, hupper, rfl⟩
    · -- another small letter has the capital too, and lower case gives that one
      exact exists_of_settles (by simpa [hlowercase] using hpoints p hholds.mem_points)

/-! ### What a code point is replaced by -/

theorem tables_isScalar : lowerRuns.all CaseRun.isScalar ∧ upperRuns.all CaseRun.isScalar ∧
    ∀ e ∈ lowerSequences ++ upperSequences, e.2 ≠ [] ∧ ∀ q ∈ e.2, Text.IsScalar q := by
  decide +kernel

/-- Case leaves a code point alone or puts characters in its place. -/
theorem Mapped.replaces {table : List (Nat × List Nat)} {runs : List CaseRun} {p : Nat} {qs : List Nat}
    (h : Mapped table runs p qs) (htable : ∀ e ∈ table, e.2 ≠ [] ∧ ∀ q ∈ e.2, Text.IsScalar q)
    (hruns : runs.all CaseRun.isScalar) : Text.Replaces p qs := by
  cases h with
  | sequence hmem => exact Or.inr (htable _ hmem)
  | alone => exact Or.inl rfl
  | @image run hrun hholds =>
    have hscalar : Text.IsScalar (run.shift p) := hholds.isScalar (List.all_eq_true.1 hruns run hrun)
    exact Or.inr ⟨List.cons_ne_nil _ _, by simpa using hscalar⟩

theorem replaces_lowerPoint (p : Nat) : Text.Replaces p (lowerPoint p) :=
  (mapped_lowerPoint p).replaces (fun e he => tables_isScalar.2.2 e (List.mem_append_left _ he)) tables_isScalar.1

theorem replaces_upperPoint (p : Nat) : Text.Replaces p (upperPoint p) :=
  (mapped_upperPoint p).replaces (fun e he => tables_isScalar.2.2 e (List.mem_append_right _ he)) tables_isScalar.2.1

end Case

end BraceTemplate
