import CodeReview.Json.Writer
import CodeReview.Score

/-!
Reviews: the verdict on one file, as it is shown and saved. A review that failed says why, and has
that as its one finding.
-/

namespace CodeReview

structure Review where
  filename : String
  language : String := "unknown"
  score : Score
  issues : List Finding
  suggestions : List Finding
  summary : String
  error : Option String := none
  deriving DecidableEq, Repr

namespace Review

def failed (r : Review) : Bool :=
  r.error.isSome

def hasLongLine (r : Review) : Bool :=
  (r.issues ++ r.suggestions).any Finding.hasLongLine

/-- The review that stands for one that failed: score 0, and one critical finding. -/
def failure (filename language reason : String) : Review where
  filename := filename
  language := language
  score := 0
  issues := [{
    severity := .critical
    message := "Review failed: " ++ reason
    rule := "review-failed" }]
  suggestions := []
  summary := (Summary.ofScore 0 true).text
  error := some reason

def checkScore (j : Json) : Checked Score :=
  (Check.integer j).bind fun i =>
    if i < 0 then .fail .belowMinimum
    else if h : i.toNat < 101 then .valid ⟨i.toNat, h⟩
    else .fail .aboveMaximum

def check (j : Json) : Checked Review :=
  match j with
  | .obj _ =>
    Review.mk
      <$> Check.required j "filename" Check.text
      <*> Check.optional j "language" "unknown" Check.text
      <*> Check.required j "score" checkScore
      <*> Check.required j "issues" (Check.list Finding.check)
      <*> Check.required j "suggestions" (Check.list Finding.check)
      <*> Check.required j "summary" Check.text
      <*> Check.optional j "error" none (Check.orNull Check.text)
  | _ => .fail .notRecord

def toJson (r : Review) : Json :=
  .obj [
    ("filename", .str r.filename),
    ("language", .str r.language),
    ("score", .int r.score.val),
    ("issues", .arr (r.issues.map Finding.toJson)),
    ("suggestions", .arr (r.suggestions.map Finding.toJson)),
    ("summary", .str r.summary),
    ("error", match r.error with
      | none => .null
      | some e => .str e)]

/-- The text of a review, if the numbers of its lines can be written. -/
def text (r : Review) : String :=
  r.toJson.indented

end Review

end CodeReview
