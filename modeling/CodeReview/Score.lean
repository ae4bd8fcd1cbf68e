import CodeReview.Score.Policy
import CodeReview.Log

/-!
Scores of analyses, and what is said of a score. A score is a hundred less the penalty, to the
nearest integer and within 0 and 100. The summary and the band have the same two upper thresholds.
-/

namespace CodeReview

abbrev Score := Fin 101

namespace Score

def clamp (i : Int) : Score :=
  ⟨min i.toNat 100, by omega⟩

theorem val_clamp (i : Int) : ((clamp i).val : Int) = max 0 (min 100 i) := by
  simp only [clamp]
  omega

/-- The score under a penalty. A penalty that is no finite number has none. -/
def ofPenalty (penalty : Binary64) : Except Binary64.NotInteger Score :=
  (100 - penalty).round.map clamp

def record (p : Policy) (a : Analysis) (s : Score) : LogRecord where
  level := .debug
  source := .scoring
  message := p.kind.name ++ " policy: " ++ toString a.issues.length ++ " issues, "
    ++ toString a.suggestions.length ++ " suggestions -> " ++ toString s.val

end Score

def Policy.score (p : Policy) (a : Analysis) : Except Binary64.NotInteger Score :=
  Score.ofPenalty (p.penalty a)

inductive Summary where
  | excellent
  | good
  | critical
  | significant
  deriving DecidableEq, Repr

namespace Summary

/-- The summary of a score, given the thresholds that it reaches. A critical issue is named before
the general remark on a low score. -/
def ofReached (reaches : Nat → Bool) (hasCritical : Bool) : Summary :=
  if reaches 90 then .excellent
  else if reaches 75 then .good
  else if hasCritical then .critical
  else .significant

def ofScore (score : Int) (hasCritical : Bool) : Summary :=
  ofReached (fun n => n ≤ score) hasCritical

def text : Summary → String
  | .excellent => "Excellent code quality! Minor improvements suggested."
  | .good => "Good code quality with some areas for improvement."
  | .critical => "Critical security issues found! Immediate action required."
  | .significant => "Significant improvements needed. Review all issues carefully."

end Summary

inductive Band where
  | excellent
  | good
  | fair
  | poor
  deriving DecidableEq, Repr

namespace Band

def ofReached (reaches : Nat → Bool) : Band :=
  if reaches 90 then .excellent
  else if reaches 75 then .good
  else if reaches 60 then .fair
  else .poor

def ofScore (score : Int) : Band :=
  ofReached fun n => n ≤ score

def name : Band → String
  | .excellent => "excellent"
  | .good => "good"
  | .fair => "fair"
  | .poor => "poor"

def title : Band → String
  | .excellent => "Excellent"
  | .good => "Good"
  | .fair => "Fair"
  | .poor => "Poor"

def style : Band → String
  | .excellent => "green"
  | .good => "blue"
  | .fair => "yellow"
  | .poor => "red"

end Band

end CodeReview
