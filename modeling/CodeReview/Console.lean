import CodeReview.Console.Markup
import CodeReview.Path
import CodeReview.Review

/-!
What is shown on the console: lines of markup, and tables whose cells are markup.
-/

namespace CodeReview

inductive ConsoleEntry where
  | line (markup : String)
  | table (title : String) (columns : List String) (rows : List (List String))
  deriving DecidableEq, Repr

namespace ConsoleEntry

open Markup

def markups : ConsoleEntry → List String
  | .line m => [m]
  | .table title columns rows => title :: (columns ++ rows.flatten)

def closes (e : ConsoleEntry) : Bool :=
  e.markups.all fun m => Markup.closes [] (tags m)

def findingRow (kind : String) (f : Finding) : List String :=
  [kind, f.severity.name,
    (match f.line with
      | none => "-"
      | some n => toString n.val),
    f.rule, escape f.message]

def findings (r : Review) : ConsoleEntry :=
  .table "Findings" ["Kind", "Severity", "Line", "Rule", "Message"]
    (r.issues.map (findingRow "issue") ++ r.suggestions.map (findingRow "suggestion"))

def heading (r : Review) : List ConsoleEntry :=
  let style := (Band.ofScore r.score.val).style
  [
    .line ("\n" ++ styled "bold" "File:" ++ " " ++ escape r.filename),
    .line (styled "bold" "Language:" ++ " " ++ r.language ++ "   " ++ styled "bold" "Score:" ++ " "
      ++ styled style (toString r.score.val ++ "/100") ++ "   " ++ toString r.issues.length
      ++ " issues • " ++ toString r.suggestions.length ++ " suggestions"),
    .line (styled "bold" "Summary:" ++ " " ++ r.summary ++ "\n")]

def details (r : Review) : List ConsoleEntry :=
  if r.issues.isEmpty && r.suggestions.isEmpty then [] else [findings r]

def reviewRow (r : Review) : List String :=
  [escape r.filename,
    styled (Band.ofScore r.score.val).style (toString r.score.val),
    toString r.issues.length, toString r.suggestions.length]

def saved (p : Path) : ConsoleEntry :=
  .line (styled "dim" "Saved:" ++ " " ++ p.toString)

def summary (rs : List Review) : ConsoleEntry :=
  .table "Review summary" ["File", "Score", "Issues", "Suggestions"] (rs.map reviewRow)

end ConsoleEntry

end CodeReview
