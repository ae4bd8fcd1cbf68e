import CodeReview.Review.OfSource

/-!
Reviews of many files. They stand in the order of the files, and no file's review depends on
another file.
-/

namespace CodeReview

/-- What came of reviewing several files, how many at a time, and the records that were made of it.
-/
structure BatchRun where
  workers : Nat
  records : List LogRecord
  outcome : Except Binary64.NotInteger (List Review)

namespace Batch

def workers (wanted : Int) (files : Nat) : Nat :=
  max 1 (min wanted.toNat files)

def runs {Q A : Type} (o : ReviewOptions Q A) : List SourceFile → Dialogue Q A (List ReviewRun)
  | [] => .done []
  | s :: ss => (Review.ofSource o s).bind fun r => (runs o ss).bind fun rs => .done (r :: rs)

def record (reviews : List Review) : LogRecord where
  level := .info
  source := .reviewer
  message := "Reviewed " ++ toString reviews.length ++ " file(s), "
    ++ toString (reviews.countP Review.failed) ++ " failed"

def gather (workers : Nat) (runs : List ReviewRun) : BatchRun :=
  let outcome := runs.mapM (·.outcome)
  { workers := workers
    records := runs.flatMap (·.records) ++ match outcome with
      | .ok (r :: rs) => [record (r :: rs)]
      | _ => []
    outcome := outcome }

/-- The files are reviewed by as many workers as are wanted, but at least by one and by no more than
there are files. -/
def review {Q A : Type} (o : ReviewOptions Q A) (wanted : Int) (sources : List SourceFile) :
    Dialogue Q A BatchRun :=
  (runs o sources).bind fun rs => .done (gather (workers wanted sources.length) rs)

end Batch

end CodeReview
