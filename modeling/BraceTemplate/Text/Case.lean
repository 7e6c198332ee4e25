import BraceTemplate.Text
import BraceTemplate.Text.CaseTable
import BraceTemplate.Text.LetterTable

/-!
# Case

Upper and lower case of a text by the full mappings: one code point may become several, and a
capital sigma at the end of a word becomes the final small sigma. Title case lower-cases a text and
then raises every lower-case letter that starts it or follows a code point that is no letter.
-/

namespace BraceTemplate

namespace Case

/-- The upper case of a code point. -/
def upperPoint (p : Nat) : List Nat :=
  match upperSequences.lookup p with
  | some ps => ps
  | none => [(CaseRun.image? p upperRuns).getD p]

/-- The lower case of a code point by itself. -/
def lowerPoint (p : Nat) : List Nat :=
  match lowerSequences.lookup p with
  | some ps => ps
  | none => [(CaseRun.image? p lowerRuns).getD p]

/-- Whether a code point is skipped when looking for a cased neighbour. -/
def isIgnorable (p : Nat) : Bool :=
  PointRun.mem p ignorableRuns

/-- Whether a code point that is not skipped has case. -/
def isCased (p : Nat) : Bool :=
  PointRun.mem p casedRuns

abbrev capitalSigma : Nat := 0x3A3
abbrev finalSigma : Nat := 0x3C2

/-- Whether the first code point that is not skipped has case. -/
def startsCased : List Nat → Bool
  | [] => false
  | p :: rest => if isIgnorable p then startsCased rest else isCased p

/-- Lower case of code points; `afterCased` tells whether a cased code point comes before them. -/
def lowerPoints (afterCased : Bool) : List Nat → List Nat
  | [] => []
  | p :: rest =>
    let here :=
      if p = capitalSigma && afterCased && !startsCased rest then [finalSigma] else lowerPoint p
    here ++ lowerPoints (if isIgnorable p then afterCased else isCased p) rest

/-- Title case of lower-case code points; `afterLetter` tells whether a letter comes before them. -/
def titlePoints (afterLetter : Bool) : List Nat → List Nat
  | [] => []
  | p :: rest =>
    let here := if !afterLetter && Letter.isLowercase p then upperPoint p else [p]
    here ++ titlePoints (Letter.isLetter p) rest

end Case

namespace Text

/-- The text in upper case. -/
def upper (t : Text) : Text :=
  ofPoints (t.points.flatMap Case.upperPoint)

/-- The text in lower case. -/
def lower (t : Text) : Text :=
  ofPoints (Case.lowerPoints false t.points)

/-- The text with the first letter of every word in upper case and all others in lower case. -/
def titleCase (t : Text) : Text :=
  ofPoints (Case.titlePoints false t.lower.points)

end Text

end BraceTemplate
