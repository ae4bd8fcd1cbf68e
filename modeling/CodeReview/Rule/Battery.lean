import CodeReview.Rule.Line
import CodeReview.Log

/-!
The rules, and the analysis of a text by them. Each rule has at most one finding in a text, on the
side that it belongs to; the findings of each side stand in the order of the rules.
-/

namespace CodeReview

open Text

inductive Rule where
  | evalUsage
  | hardcodedPassword
  | innerHtml
  | sqlConcatenation
  | varDeclaration
  | consoleLog
  | unhandledFetch
  | highComplexity
  | lowCommentDensity
  | magicNumbers
  deriving DecidableEq, Repr

inductive Side where
  | issue
  | suggestion
  deriving DecidableEq, Repr

namespace Rule

def battery : List Rule :=
  [.evalUsage, .hardcodedPassword, .innerHtml, .sqlConcatenation, .varDeclaration, .consoleLog,
    .unhandledFetch, .highComplexity, .lowCommentDensity, .magicNumbers]

theorem mem_battery (r : Rule) : r ∈ battery := by
  cases r <;> decide

def id : Rule → String
  | .evalUsage => "eval-usage"
  | .hardcodedPassword => "hardcoded-password"
  | .innerHtml => "inner-html"
  | .sqlConcatenation => "sql-concatenation"
  | .varDeclaration => "var-declaration"
  | .consoleLog => "console-log"
  | .unhandledFetch => "unhandled-fetch"
  | .highComplexity => "high-complexity"
  | .lowCommentDensity => "low-comment-density"
  | .magicNumbers => "magic-numbers"

def ofId? (s : String) : Option Rule :=
  battery.find? fun r => r.id == s

def side : Rule → Side
  | .evalUsage | .hardcodedPassword | .innerHtml | .sqlConcatenation => .issue
  | _ => .suggestion

def severity : Rule → Severity
  | .evalUsage => .high
  | .hardcodedPassword => .critical
  | .innerHtml => .medium
  | .sqlConcatenation => .critical
  | .varDeclaration => .low
  | .consoleLog => .low
  | .unhandledFetch => .medium
  | .highComplexity => .medium
  | .lowCommentDensity => .low
  | .magicNumbers => .low

def message : Rule → String
  | .evalUsage => "Avoid using eval() - security risk"
  | .hardcodedPassword => "Hardcoded credentials detected"
  | .innerHtml => "innerHTML can lead to XSS vulnerabilities"
  | .sqlConcatenation => "Potential SQL injection vulnerability detected"
  | .varDeclaration => "Use const or let instead of var"
  | .consoleLog => "Remove console.log statements in production"
  | .unhandledFetch => "Add error handling for async operations"
  | .highComplexity =>
    "High cyclomatic complexity - consider breaking functions into smaller pieces"
  | .lowCommentDensity => "Add comments to improve code readability"
  | .magicNumbers => "Replace magic numbers with named constants"

def simpleBranches : Nat := 10

def pattern? : Rule → Option Pattern
  | .evalUsage => some .evalCall
  | .hardcodedPassword => some .passwordText
  | .innerHtml => some .innerHtml
  | .varDeclaration => some .varDeclaration
  | .consoleLog => some .consoleLog
  | _ => none

def judges (r : Rule) (t : List Char) : Bool :=
  match r with
  | .sqlConcatenation => (lines t).any Line.joinsQuery
  | .unhandledFetch => Pattern.occurs .fetchCall t && !Pattern.occurs .catchWord t
  | .highComplexity =>
    Pattern.occurs .functionMark t && simpleBranches < Pattern.count .branchWord t
  | .lowCommentDensity => Line.lacksComments (lines t)
  | .magicNumbers => (lines t).any Line.hasMagicNumber
  | _ => false

def findingAt (r : Rule) (line : Option LineNumber) : Finding :=
  { severity := r.severity, message := r.message, line := line, rule := r.id }

def find? (r : Rule) (t : List Char) : Option Finding :=
  match r.pattern? with
  | some p => (p.firstLine t).map fun n => r.findingAt (some n)
  | none => if r.judges t then some (r.findingAt none) else none

end Rule

namespace Analysis

def hits (rules : List Rule) (t : List Char) : List (Rule × Finding) :=
  rules.filterMap fun r => (r.find? t).map fun f => (r, f)

def onSide (s : Side) (found : List (Rule × Finding)) : List Finding :=
  (found.filter fun h => h.1.side == s).map (·.2)

def ofHits (found : List (Rule × Finding)) : Analysis :=
  { issues := onSide .issue found, suggestions := onSide .suggestion found }

/-- The analysis of a text by some rules. An empty text has no findings. -/
def run (rules : List Rule) (content : String) : Analysis :=
  ofHits (if content.isEmpty then [] else hits rules content.toList)

def ofText (content : String) : Analysis :=
  run Rule.battery content

def records (rules : List Rule) (content : String) : List LogRecord :=
  (if content.isEmpty then [] else hits rules content.toList).map fun (r, f) =>
    { level := .debug
      source := .rules
      message := "rule " ++ r.id ++ " fired (line="
        ++ (match f.line with
          | some n => toString n.val
          | none => "None") ++ ")" }

end Analysis

end CodeReview
