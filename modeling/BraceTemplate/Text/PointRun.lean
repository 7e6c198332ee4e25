/-!
# Runs of code points

Properties of Unicode are held as ascending lists of runs: every `stride`-th code point from `first`
to `last`. A case mapping adds the image of the first code point; the others lie as far from their
images.
-/

namespace BraceTemplate

/-- Every `stride`-th code point from `first` to `last`. -/
structure PointRun where
  first : Nat
  last : Nat
  stride : Nat

namespace PointRun

/-- Whether a code point lies in a run of an ascending list. -/
def mem (p : Nat) : List PointRun → Bool
  | [] => false
  | run :: rest =>
    if p < run.first then false
    else if p ≤ run.last then (p - run.first) % run.stride = 0
    else mem p rest

end PointRun

/-- A run of code points together with the image of the first one. -/
structure CaseRun where
  first : Nat
  last : Nat
  stride : Nat
  image : Nat

namespace CaseRun

/-- The image of a code point under the run of an ascending list that holds it. -/
def image? (p : Nat) : List CaseRun → Option Nat
  | [] => none
  | run :: rest =>
    if p < run.first then none
    else if p ≤ run.last then
      if (p - run.first) % run.stride = 0 then some (run.image + (p - run.first)) else none
    else image? p rest

end CaseRun

end BraceTemplate
