import CodeReview.Assistant
import CodeReview.Language
import CodeReview.Review
import CodeReview.Rule.Battery
import CodeReview.SourceFile

/-!
The review of one file: the rules are applied, an assistant may add its remarks as one suggestion,
and the findings are scored. A text that is refused and an assistant that fails make a failed
review; only a penalty that is no finite number leaves a file without a review.
-/

namespace CodeReview

open Text

structure ReviewOptions (Q A : Type) where
  policy : Policy := .default
  rejectEmpty : Bool := false
  assistant? : Option (Assistant Q A) := none

structure ReviewRun where
  records : List LogRecord
  outcome : Except Binary64.NotInteger Review

namespace Review

def ofAnalysis (policy : Policy) (path : String) (a : Analysis) :
    Except Binary64.NotInteger Review :=
  (policy.score a).map fun score =>
    { filename := path
      language := Language.nameFor path
      score := score
      issues := a.issues
      suggestions := a.suggestions
      summary := (Summary.ofScore score.val a.hasCritical).text }

def remarkFinding (remarks : String) : Finding where
  severity := .low
  message := remarks
  rule := "ai-review"

def withRemarks (a : Analysis) (remarks : String) : Analysis :=
  if remarks.isEmpty then a
  else { a with suggestions := a.suggestions ++ [remarkFinding remarks] }

def failureRecord (path : String) : AssistantFailure → LogRecord
  | .foreseen m =>
    { level := .warning, source := .reviewer
      message := "Review of " ++ path ++ " failed: " ++ m }
  | .unforeseen _ _ =>
    { level := .error, source := .reviewer
      message := "Unexpected error reviewing " ++ path }

def failedRun (records : List LogRecord) (path : String) (f : AssistantFailure) : ReviewRun where
  records := records ++ [failureRecord path f]
  outcome := .ok (failure path (Language.nameFor path) f.reason)

def scoredRun (records : List LogRecord) (policy : Policy) (path : String) (a : Analysis) :
    ReviewRun where
  records := records ++ match policy.score a with
    | .ok s => [Score.record policy a s]
    | .error _ => []
  outcome := ofAnalysis policy path a

/-- The review of a file. A blank text is not shown to an assistant. -/
def ofSource {Q A : Type} (o : ReviewOptions Q A) (source : SourceFile) :
    Dialogue Q A ReviewRun :=
  let path := source.name
  let code := source.content
  if o.rejectEmpty && isBlankText code then
    .done (failedRun [] path (.foreseen emptyContentMessage))
  else
    let found := Analysis.ofText code
    let records := Analysis.records Rule.battery code
    match o.assistant? with
    | none => .done (scoredRun records o.policy path found)
    | some assistant =>
      if isBlankText code then .done (scoredRun records o.policy path found)
      else
        let records := records ++ assistant.records code path
        (assistant.ask code (Language.nameFor path) path).bind fun reply =>
          .done <| match remarks reply with
            | .error f => failedRun records path f
            | .ok s => scoredRun records o.policy path (withRemarks found s)

end Review

end CodeReview
