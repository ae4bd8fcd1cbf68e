import CodeReview.Proofs.Review.Outcome

/-!
Batches one file after the other: what comes of a batch is what comes of its files, in their order.
-/

namespace CodeReview

variable {α β ε : Type}

theorem mapM_eq_ok_iff {f : α → Except ε β} {as : List α} {bs : List β} :
    as.mapM f = .ok bs ↔ as.map f = bs.map .ok := by
  induction as generalizing bs with
  | nil => cases bs <;> simp [pure, Except.pure]
  | cons a as ih =>
    rw [List.mapM_cons]
    cases ha : f a with
    | error e => cases bs <;> simp [bind, Except.bind, ha]
    | ok b =>
      cases has : as.mapM f with
      | error e =>
        cases bs with
        | nil => simp [bind, Except.bind]
        | cons c cs =>
          have hne : as.map f ≠ cs.map .ok := fun h => by
            have := ih.2 h
            rw [has] at this
            cases this
          simp [bind, Except.bind, ha, hne]
      | ok ds =>
        cases bs <;> simp [bind, Except.bind, pure, Except.pure, ← ih, has, ha]

namespace Batch

variable {Q A : Type}

theorem result_runs (o : ReviewOptions Q A) (sources : List SourceFile) (reply : Q → A) :
    (runs o sources).result reply = sources.map fun s => (Review.ofSource o s).result reply := by
  induction sources with
  | nil => rfl
  | cons s ss ih => simp only [runs, Dialogue.result_bind, Dialogue.result, ih, List.map_cons]

theorem result_review (o : ReviewOptions Q A) (wanted : Int) (sources : List SourceFile)
    (reply : Q → A) : (review o wanted sources).result reply =
      gather (workers wanted sources.length)
        (sources.map fun s => (Review.ofSource o s).result reply) := by
  rw [review, Dialogue.result_bind, result_runs, Dialogue.result]

theorem outcome_review_congr (o : ReviewOptions Q A) (m n : Int) (sources : List SourceFile)
    (reply : Q → A) :
    ((review o m sources).result reply).outcome = ((review o n sources).result reply).outcome := by
  rw [result_review, result_review]
  rfl

theorem outcome_review_eq_ok_iff {o : ReviewOptions Q A} {wanted : Int}
    {sources : List SourceFile} {reply : Q → A} {reviews : List Review} :
    ((review o wanted sources).result reply).outcome = .ok reviews ↔
      sources.map (fun s => Review.outcome o s reply) = reviews.map .ok := by
  rw [result_review, gather, mapM_eq_ok_iff, List.map_map]
  rfl

end Batch

end CodeReview
