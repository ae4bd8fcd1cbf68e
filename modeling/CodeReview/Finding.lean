import CodeReview.Validation

/-!
Findings, and what the analysis of one text found: issues, which are faults, and suggestions.
-/

namespace CodeReview

inductive Severity where
  | critical
  | high
  | medium
  | low
  deriving DecidableEq, Repr

namespace Severity

def all : List Severity := [.critical, .high, .medium, .low]

theorem mem_all (s : Severity) : s ∈ all := by
  cases s <;> decide

def name : Severity → String
  | .critical => "critical"
  | .high => "high"
  | .medium => "medium"
  | .low => "low"

def ofName? (s : String) : Option Severity :=
  all.find? fun v => v.name == s

theorem ofName?_name (s : Severity) : ofName? s.name = some s := by
  cases s <;> decide

end Severity

abbrev LineNumber := { n : Nat // 0 < n }

/-- What a rule, an assistant or a failure has to say about a text. An empty rule is none. -/
structure Finding where
  severity : Severity
  message : String
  line : Option LineNumber := none
  rule : String := ""
  deriving DecidableEq, Repr

namespace Finding

/-- Whether the number of the line has more digits than an integer is written or read with. -/
def hasLongLine (f : Finding) : Bool :=
  f.line.any fun n => decide (NumberNotation.maxDigits < (Nat.toDigits 10 n.val).length)

def checkLine (j : Json) : Checked LineNumber :=
  (Check.integer j).bind fun i =>
    if h : 0 < i.toNat then .valid ⟨i.toNat, h⟩ else .fail .belowMinimum

def check (j : Json) : Checked Finding :=
  match j with
  | .obj _ =>
    Finding.mk
      <$> Check.required j "severity" (Check.choice Severity.ofName?)
      <*> Check.required j "message" Check.text
      <*> Check.optional j "line" none (Check.orNull checkLine)
      <*> Check.optional j "rule" "" Check.text
  | _ => .fail .notRecord

def toJson (f : Finding) : Json :=
  .obj [
    ("severity", .str f.severity.name),
    ("message", .str f.message),
    ("line", match f.line with
      | none => .null
      | some n => .int n.val),
    ("rule", .str f.rule)]

end Finding

structure Analysis where
  issues : List Finding := []
  suggestions : List Finding := []
  deriving DecidableEq, Repr

namespace Analysis

def hasCritical (a : Analysis) : Bool :=
  a.issues.any fun f => f.severity == .critical

def check (j : Json) : Checked Analysis :=
  match j with
  | .obj _ =>
    Analysis.mk
      <$> Check.optional j "issues" [] (Check.list Finding.check)
      <*> Check.optional j "suggestions" [] (Check.list Finding.check)
  | _ => .fail .notRecord

end Analysis

end CodeReview
