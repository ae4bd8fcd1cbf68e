import CodeReview.Finding
import CodeReview.Text.Case
import CodeReview.Text.Quoted

/-!
Scoring policies: what each finding of an analysis costs. A flat policy counts findings, and a
severity policy weighs issues by their severity; the two are never mixed.
-/

namespace CodeReview

open Text

inductive PolicyKind where
  | flat
  | severity
  deriving DecidableEq, Repr

namespace PolicyKind

def name : PolicyKind → String
  | .flat => "flat"
  | .severity => "severity"

/-- The kind that a name stands for, in any case and with white space around it. -/
def ofName? (name : String) : Option PolicyKind :=
  let name := strip (toLower name)
  if name == "flat" then some .flat
  else if name == "severity" then some .severity
  else none

end PolicyKind

structure FlatWeights where
  issue : Binary64 := 15
  suggestion : Binary64 := 5
  deriving DecidableEq, Repr

/-- The weights of a severity policy. Suggestions cost the same whatever their severity. -/
structure SeverityWeights where
  critical : Binary64 := 20
  high : Binary64 := 10
  medium : Binary64 := 5
  low : Binary64 := 0
  suggestion : Binary64 := 2
  deriving DecidableEq, Repr

def SeverityWeights.ofSeverity (w : SeverityWeights) : Severity → Binary64
  | .critical => w.critical
  | .high => w.high
  | .medium => w.medium
  | .low => w.low

inductive Policy where
  | flat (weights : FlatWeights)
  | severity (weights : SeverityWeights)
  deriving DecidableEq, Repr

inductive PolicyError where
  | unknownName (name : String)
  | invalidWeights (kind : PolicyKind) (errors : List FieldError)
  deriving DecidableEq, Repr

def PolicyError.unknownNameMessage (name : String) : String :=
  "Unknown scoring policy " ++ quoted name ++ ". Expected one of: flat, severity"

namespace Policy

def kind : Policy → PolicyKind
  | .flat _ => .flat
  | .severity _ => .severity

def default : Policy := .severity {}

/-- A kind may be given beside the weights, and is then the kind that they are for. -/
def checkKind (k : PolicyKind) (j : Json) : Checked PolicyKind :=
  Check.optional j "kind" k (Check.choice fun s => if s == k.name then some k else none)

def checkFlat (j : Json) : Checked Policy :=
  (fun _ issue suggestion => .flat ⟨issue, suggestion⟩)
    <$> checkKind .flat j
    <*> Check.optional j "issue_penalty" 15 Check.weight
    <*> Check.optional j "suggestion_penalty" 5 Check.weight

def checkSeverity (j : Json) : Checked Policy :=
  (fun _ critical high medium low suggestion =>
      .severity ⟨critical, high, medium, low, suggestion⟩)
    <$> checkKind .severity j
    <*> Check.optional j "critical" 20 Check.weight
    <*> Check.optional j "high" 10 Check.weight
    <*> Check.optional j "medium" 5 Check.weight
    <*> Check.optional j "low" 0 Check.weight
    <*> Check.optional j "per_suggestion" 2 Check.weight

def ofWeights (k : PolicyKind) (weights : Json) : Except PolicyError Policy :=
  let checked := match k with
    | .flat => checkFlat weights
    | .severity => checkSeverity weights
  match checked with
  | .valid p => .ok p
  | .invalid es => .error (.invalidWeights k es)

/-- The policy of a name with given weights; weights of the other kind are not looked at. -/
def ofName (name : String) (weights : Json) : Except PolicyError Policy :=
  match PolicyKind.ofName? name with
  | none => .error (.unknownName name)
  | some k => ofWeights k weights

def toJson : Policy → Json
  | .flat w => .obj [
      ("kind", .str PolicyKind.flat.name),
      ("issue_penalty", .float w.issue),
      ("suggestion_penalty", .float w.suggestion)]
  | .severity w => .obj [
      ("kind", .str PolicyKind.severity.name),
      ("critical", .float w.critical),
      ("high", .float w.high),
      ("medium", .float w.medium),
      ("low", .float w.low),
      ("per_suggestion", .float w.suggestion)]

def total (costs : List Binary64) : Binary64 :=
  costs.foldl (· + ·) 0

def penalty (p : Policy) (a : Analysis) : Binary64 :=
  match p with
  | .flat w => w.issue * .ofNat a.issues.length + w.suggestion * .ofNat a.suggestions.length
  | .severity w =>
    total (a.issues.map fun f => w.ofSeverity f.severity)
      + w.suggestion * .ofNat a.suggestions.length

end Policy

end CodeReview
