import CodeReview.Proofs.Review.Outcome
import CodeReview.Proofs.Review.Batch
import CodeReview.Review.Slot

/-!
The reviews of a batch among those that there are at once. If there is one for each slot that waits,
they go into the slots one by one, and none is left.
-/

namespace CodeReview.Slot

variable {Q A : Type}

/-- The slots, the reviews of a batch and the merged reviews, taken side by side: a slot that waits
takes the next review of the batch. Nothing is missing and nothing is left when the slots end. -/
inductive Merged : List Slot → List Review → List Review → Prop
  | nil : Merged [] [] []
  | done {ss : List Slot} {batch merged : List Review} (r : Review)
      (rest : Merged ss batch merged) : Merged (.done r :: ss) batch (r :: merged)
  | source {ss : List Slot} {batch merged : List Review} (s : SourceFile) (r : Review)
      (rest : Merged ss batch merged) : Merged (.source s :: ss) (r :: batch) (r :: merged)

theorem sources_done (r : Review) (ss : List Slot) : sources (.done r :: ss) = sources ss := rfl

theorem sources_source (s : SourceFile) (ss : List Slot) :
    sources (.source s :: ss) = s :: sources ss := rfl

theorem merged_fill {ss : List Slot} {batch : List Review}
    (h : batch.length = (sources ss).length) : Merged ss batch (fill ss batch) := by
  induction ss generalizing batch with
  | nil =>
    obtain rfl := List.length_eq_zero_iff.1 h
    exact .nil
  | cons slot ss ih =>
    cases slot with
    | done r => exact .done r (ih h)
    | source s =>
      cases batch with
      | nil => cases h
      | cons r batch => exact .source s r (ih (Nat.succ.inj h))

def outcome (o : ReviewOptions Q A) (reply : Q → A) : Slot → Except Binary64.NotInteger Review
  | .done r => .ok r
  | .source s => Review.outcome o s reply

/-- Each review of a merge is the one that belongs into its slot, if those of the batch are the
reviews of the files that are left to it. -/
theorem Merged.map_outcome {o : ReviewOptions Q A} {reply : Q → A} {ss : List Slot}
    {batch merged : List Review} (h : Merged ss batch merged)
    (hbatch : (sources ss).map (fun s => Review.outcome o s reply) = batch.map .ok) :
    ss.map (outcome o reply) = merged.map .ok := by
  induction h with
  | nil => rfl
  | done r rest ih =>
    rw [sources_done] at hbatch
    rw [List.map_cons, List.map_cons, ih hbatch, outcome]
  | source s r rest ih =>
    rw [sources_source, List.map_cons, List.map_cons, List.cons.injEq] at hbatch
    rw [List.map_cons, List.map_cons, ih hbatch.2, outcome, hbatch.1]

end CodeReview.Slot
