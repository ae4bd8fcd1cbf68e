import CodeReview.Proofs.Review.Finite
import CodeReview.Proofs.Review.Slot
import Mathlib.Data.List.Forall2

/-!
Batches in any course of answers. Whatever the answers are, each file of a batch has a review of its
own in it, made with the answers from some place on, and these reviews fill the slots of the files.
-/

namespace CodeReview

namespace Batch

variable {Q A : Type} {answers : Nat → A} {k : Nat} {o : ReviewOptions Q A}
  {wanted : Int} {sources : List SourceFile} {batch : List Review}

theorem course_runs (answers : Nat → A) (k : Nat) (o : ReviewOptions Q A)
    (sources : List SourceFile) :
    List.Forall₂ (fun s run => ∃ k, run = ((Review.ofSource o s).course answers k).2) sources
      ((runs o sources).course answers k).2 := by
  induction sources generalizing k with
  | nil => exact .nil
  | cons s ss ih =>
    rw [runs, Dialogue.course_bind answers k _ _ rfl, Dialogue.course_bind_done]
    exact .cons ⟨k, rfl⟩ (ih _)

theorem course_review (h : ((review o wanted sources).course answers k).2.outcome = .ok batch) :
    List.Forall₂ (fun s r => ∃ k, ((Review.ofSource o s).course answers k).2.outcome = .ok r)
      sources batch := by
  rw [review, Dialogue.course_bind_done] at h
  replace h := mapM_eq_ok_iff.1 h
  have hruns := course_runs answers k o sources
  generalize ((runs o sources).course answers k).2 = runs at hruns h
  induction hruns generalizing batch with
  | nil =>
    obtain rfl := List.map_eq_nil_iff.1 h.symm
    exact .nil
  | cons hrun _ ih =>
    obtain ⟨k, rfl⟩ := hrun
    obtain ⟨r, rs, rfl, hr, hrs⟩ := List.map_eq_cons_iff.1 h.symm
    exact .cons ⟨k, hr.symm⟩ (ih hrs.symm)

theorem merged_of_course {ss : List Slot}
    (h : ((review o wanted (Slot.sources ss)).course answers k).2.outcome = .ok batch) :
    Slot.Merged ss batch (Slot.fill ss batch) :=
  Slot.merged_fill (course_review h).length_eq.symm

end Batch

namespace Slot

theorem Merged.eq_fill {ss : List Slot} {batch merged : List Review} (h : Merged ss batch merged) :
    merged = fill ss batch := by
  induction h with
  | nil => rfl
  | done r _ ih => rw [fill, ih]
  | source s r _ ih => rw [fill, ih]

inductive ComesTo {Q A : Type} (o : ReviewOptions Q A) (answers : Nat → A) : Slot → Review → Prop
  | done (r : Review) : ComesTo o answers (.done r) r
  | source {s : SourceFile} {r : Review} {k : Nat}
      (reviewed : ((Review.ofSource o s).course answers k).2.outcome = .ok r) :
      ComesTo o answers (.source s) r

theorem Merged.comesTo {Q A : Type} {o : ReviewOptions Q A} {answers : Nat → A} {ss : List Slot}
    {batch merged : List Review} (h : Merged ss batch merged)
    (hbatch : List.Forall₂
      (fun s r => ∃ k, ((Review.ofSource o s).course answers k).2.outcome = .ok r)
      (sources ss) batch) :
    List.Forall₂ (ComesTo o answers) ss merged := by
  induction h with
  | nil => exact .nil
  | done r _ ih => exact .cons (.done r) (ih hbatch)
  | source s r _ ih =>
    rw [sources_source] at hbatch
    obtain ⟨⟨k, hk⟩, hrest⟩ := List.forall₂_cons.1 hbatch
    exact .cons (.source hk) (ih hrest)

end Slot

end CodeReview
