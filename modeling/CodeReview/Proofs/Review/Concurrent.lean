import CodeReview.Proofs.Review.Finite
import CodeReview.Proofs.Review.Schedule

/-!
Batches on a pool of workers. Whatever the number of workers and the order of their turns, the pool
comes to its end, and to what the files come to one after the other.
-/

namespace CodeReview.Batch

variable {Q A : Type} {o : ReviewOptions Q A} {sources : List SourceFile} {reply : Q → A}
  {p : Pool Q A ReviewRun}

theorem workers_pos (wanted : Int) (files : Nat) : 0 < workers wanted files := by
  simp only [workers]
  omega

theorem busy_pool (o : ReviewOptions Q A) (sources : List SourceFile) :
    (pool o sources).busy = 0 := by
  rw [Pool.busy, List.countP_eq_zero]
  simp [pool, Pool.ofDialogues, Pool.Task.isWorking]

theorem ofPool?_eq_none_iff {n : Nat} : ofPool? n p = none ↔ p.turnsLeft reply ≠ 0 := by
  rw [ofPool?, Option.map_eq_none_iff]
  cases h : p.results? with
  | none =>
    have hleft : p.turnsLeft reply ≠ 0 := fun h0 => by
      have hsome := (Pool.results?_eq_some_iff reply).2 ⟨h0, rfl⟩
      rw [h] at hsome
      cases hsome
    simp [hleft]
  | some rs => simp [((Pool.results?_eq_some_iff reply).1 h).1]

theorem outcome_of_turns {n : Nat} (t : Pool.Turns reply n (pool o sources) p) {run : BatchRun}
    (h : ofPool? n p = some run) (wanted : Int) :
    run.outcome = ((review o wanted sources).result reply).outcome ∧
    p.taken.Perm (List.range sources.length) ∧
    p.asked.Perm (sources.flatMap fun s => (Review.ofSource o s).questions reply) := by
  obtain ⟨rs, hrs, rfl⟩ := Option.map_eq_some_iff.1 h
  obtain ⟨rfl, htaken, hasked⟩ := Pool.end_of_turns t hrs
  rw [List.length_map] at htaken
  rw [List.flatMap_map] at hasked
  refine ⟨?_, htaken, hasked⟩
  rw [result_review, List.map_map]
  rfl

/-- A batch on a pool, with any number of workers. No run goes on for ever, no more workers are
busy than there are, and a run goes on as long as the batch has not come to its end. At the end
there is the review of each file by itself, in the order of the files; each file was taken once,
and what was asked is what the files ask by themselves, in some order. -/
theorem pool_reviews_each_file (hp : o.policy.Accepted)
    (hfinite : ∀ s ∈ sources, o.policy.FiniteOn s.content) (reply : Q → A) (wanted : Int) :
    (WellFounded fun q p : Pool Q A ReviewRun =>
      Pool.Turn reply (workers wanted sources.length) p q) ∧
    ∀ p, Pool.Turns reply (workers wanted sources.length) (pool o sources) p →
      p.busy ≤ workers wanted sources.length ∧
      ((∃ q, Pool.Turn reply (workers wanted sources.length) p q) ↔
        ofPool? (workers wanted sources.length) p = none) ∧
      ∀ run, ofPool? (workers wanted sources.length) p = some run →
        run.outcome = ((review o wanted sources).result reply).outcome ∧
        (∃ reviews, run.outcome = .ok reviews ∧
          sources.map (fun s => Review.outcome o s reply) = reviews.map .ok) ∧
        p.taken.Perm (List.range sources.length) ∧
        p.asked.Perm (sources.flatMap fun s => (Review.ofSource o s).questions reply) := by
  refine ⟨Pool.wellFounded_turn _ _, fun p t => ⟨?_, ?_, fun run hrun => ?_⟩⟩
  · exact t.preserves (P := fun a => a.busy ≤ _) Pool.busy_of_turn
      (by rw [busy_pool]; exact Nat.zero_le _)
  · rw [Pool.exists_turn_iff (workers_pos _ _), ofPool?_eq_none_iff]
  · obtain ⟨houtcome, htaken, hasked⟩ := outcome_of_turns t hrun wanted
    obtain ⟨reviews, hreviews⟩ := (exists_reviews_iff (o := o) wanted sources reply).2 fun s hs =>
      Review.exists_review hp (hfinite s hs) reply
    exact ⟨houtcome, ⟨reviews, houtcome.trans hreviews, outcome_review_eq_ok_iff.1 hreviews⟩,
      htaken, hasked⟩

def twoFiles : List SourceFile := [⟨"a.js", "eval(x)"⟩, ⟨"b.py", "x = 1"⟩]

def remarksOnSecond (c : AssistantCall) : Except AssistantFailure Json :=
  if c.path = "b.py" then .ok (.str "Fine.") else .error (.foreseen "No answer")

theorem pool_reviews_two_files :
    Policy.default.Accepted ∧ (∀ s ∈ twoFiles, Policy.default.FiniteOn s.content) ∧
    ∃ (p : Pool AssistantCall (Except AssistantFailure Json) ReviewRun) (run : BatchRun)
      (reviews : List Review),
      Pool.Turns remarksOnSecond (workers 2 2) (pool { assistant? := some .direct } twoFiles) p ∧
      ofPool? (workers 2 2) p = some run ∧ run.outcome = .ok reviews ∧ reviews.map Review.failed = [true, false] ∧
      p.taken.Perm [0, 1] ∧
      p.asked.Perm [⟨"eval(x)", "javascript", "a.js"⟩, ⟨"x = 1", "python", "b.py"⟩] := by
  have hp : Policy.default.Accepted := by decide +kernel
  have hfinite : ∀ s ∈ twoFiles, Policy.default.FiniteOn s.content := fun s _ =>
    Policy.finiteOn_of_bounded hp (by decide +kernel) s.content
  obtain ⟨p, turns, hend⟩ := Pool.exists_end remarksOnSecond (workers_pos 2 2)
    (pool { assistant? := some .direct } twoFiles)
  have hall := (pool_reviews_each_file (o := { assistant? := some .direct }) hp hfinite
    remarksOnSecond 2).2 p turns
  cases h : ofPool? (workers 2 2) p with
  | none => exact absurd hend (ofPool?_eq_none_iff.1 h)
  | some run =>
    obtain ⟨-, ⟨reviews, hreviews, heach⟩, htaken, hasked⟩ := hall.2.2 run h
    refine ⟨hp, hfinite, p, run, reviews, turns, h, hreviews, ?_, htaken, ?_⟩
    · have hflags := congrArg (List.map fun r => r.toOption.any Review.failed) heach
      rw [List.map_map, List.map_map] at hflags
      exact hflags.symm.trans (by decide +kernel)
    · have hcalls : twoFiles.flatMap (fun s =>
          (Review.ofSource { assistant? := some .direct } s).questions remarksOnSecond) =
          [⟨"eval(x)", "javascript", "a.js"⟩, ⟨"x = 1", "python", "b.py"⟩] := by
        decide +kernel
      rwa [hcalls] at hasked

end CodeReview.Batch
