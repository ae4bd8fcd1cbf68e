import CodeReview.Proofs.Review.Finite
import CodeReview.Proofs.Rule.Finding

/-!
Coherent reviews. The parts of a review belong together: the summary and the band are those of the
score, and a review tells of a failure exactly where that is its one issue. A failed review is made
so, and a review by rules has only the issues of the rules, which are never that one.
-/

namespace CodeReview

namespace Summary

theorem text_injective {s t : Summary} (h : s.text = t.text) : s = t := by
  cases s <;> cases t <;> first | rfl | exact absurd h (by decide)

theorem ofReached_eq_iff (reaches : Nat → Bool) (critical : Bool) :
    (ofReached reaches critical = .excellent ↔ Band.ofReached reaches = .excellent) ∧
    (ofReached reaches critical = .good ↔ Band.ofReached reaches = .good) := by
  cases h90 : reaches 90 with
  | true => simp [ofReached, Band.ofReached, h90]
  | false =>
    cases h75 : reaches 75 with
    | true => simp [ofReached, Band.ofReached, h90, h75]
    | false => cases critical <;> cases h60 : reaches 60 <;>
        simp [ofReached, Band.ofReached, h90, h75, h60]

end Summary

namespace Review

/-- What holds of a review whose parts belong together. -/
structure Coherent (r : Review) : Prop where
  score_le : r.score.val ≤ 100
  summary_eq : r.summary =
    (Summary.ofScore r.score.val (r.issues.any fun f => f.severity == .critical)).text
  band_excellent_iff : Band.ofScore r.score.val = .excellent ↔ r.summary = Summary.excellent.text
  band_good_iff : Band.ofScore r.score.val = .good ↔ r.summary = Summary.good.text
  error_iff : ∀ reason, r.error = some reason ↔
    r.issues = [{ severity := .critical, message := "Review failed: " ++ reason, line := none,
                  rule := "review-failed" }]
  of_failed : r.failed = true →
    r.score = 0 ∧ r.suggestions = [] ∧ r.summary = Summary.critical.text

theorem band_iff_of_summary {r : Review} (critical : Bool)
    (h : r.summary = (Summary.ofScore r.score.val critical).text) :
    (Band.ofScore r.score.val = .excellent ↔ r.summary = Summary.excellent.text) ∧
    (Band.ofScore r.score.val = .good ↔ r.summary = Summary.good.text) := by
  have htext : ∀ s : Summary, r.summary = s.text ↔ Summary.ofScore r.score.val critical = s := by
    intro s
    rw [h]
    exact ⟨Summary.text_injective, congrArg Summary.text⟩
  have hsteps := Summary.ofReached_eq_iff (fun n => n ≤ (r.score.val : Int)) critical
  rw [htext, htext]
  exact ⟨hsteps.1.symm, hsteps.2.symm⟩

theorem coherent_failure (filename language reason : String) :
    (failure filename language reason).Coherent where
  score_le := Nat.zero_le _
  summary_eq := rfl
  band_excellent_iff := (band_iff_of_summary true rfl).1
  band_good_iff := (band_iff_of_summary true rfl).2
  error_iff other := by
    simp only [failure, Option.some.injEq, List.cons.injEq, and_true, Finding.mk.injEq, true_and,
      String.append_right_inj]
  of_failed _ := ⟨rfl, rfl, rfl⟩

theorem rule_of_mem_issues {content : String} {f : Finding}
    (h : f ∈ (Analysis.ofText content).issues) : f.rule ≠ "review-failed" := by
  obtain ⟨-, r, hr⟩ := Analysis.mem_findings_ofText_iff.1 (.inl h)
  obtain ⟨line, rfl⟩ := Rule.rule_of_find? hr
  have hids : ∀ r ∈ Rule.battery, r.id ≠ "review-failed" := by decide
  exact hids r (Rule.mem_battery r)

theorem coherent_of_ofAnalysis {p : Policy} {path : String} {a : Analysis}
    (hrules : ∀ f ∈ a.issues, f.rule ≠ "review-failed") {r : Review}
    (h : ofAnalysis p path a = .ok r) : r.Coherent := by
  obtain ⟨score, -, rfl⟩ := ofAnalysis_eq_ok.1 h
  exact
    { score_le := Nat.le_of_lt_succ score.isLt
      summary_eq := rfl
      band_excellent_iff := (band_iff_of_summary _ rfl).1
      band_good_iff := (band_iff_of_summary _ rfl).2
      error_iff := fun reason => by
        constructor
        · intro herror
          cases herror
        · intro hissues
          dsimp only at hissues
          rw [hissues] at hrules
          exact absurd rfl (hrules _ (List.mem_singleton_self _))
      of_failed := fun hfailed => by cases hfailed }

theorem coherent_of_outcome {Q A : Type} {o : ReviewOptions Q A} {s : SourceFile} {reply : Q → A}
    {r : Review} (h : outcome o s reply = .ok r) : r.Coherent := by
  cases hfound : found o s reply with
  | error f =>
    rw [outcome_of_found_error hfound, Except.ok.injEq] at h
    rw [← h]
    exact coherent_failure _ _ _
  | ok a =>
    rw [outcome_of_found_ok hfound] at h
    obtain ⟨text, rfl⟩ := exists_remarks_of_found hfound
    refine coherent_of_ofAnalysis (fun f hf => ?_) h
    rw [issues_withRemarks] at hf
    exact rule_of_mem_issues hf

/-- Every file whose penalty is a finite number has a review, and it is coherent, whatever an
assistant does; so is every failed review. -/
theorem coherent_review {Q A : Type} {o : ReviewOptions Q A} (hp : o.policy.Accepted)
    {s : SourceFile} {reply : Q → A}
    (hfinite : ∀ a, found o s reply = .ok a → (o.policy.penalty a).isFinite = true) :
    (∃ r, outcome o s reply = .ok r ∧ r.Coherent) ∧
    ∀ filename language reason, (failure filename language reason).Coherent := by
  obtain ⟨r, hr⟩ := (exists_review_iff hp).2 hfinite
  exact ⟨⟨r, hr, coherent_of_outcome hr⟩, coherent_failure⟩

theorem coherent_review_with_remarks :
    Policy.default.Accepted ∧
    (∀ a, found ({ assistant? := some .direct } :
        ReviewOptions AssistantCall (Except AssistantFailure Json)) ⟨"a.js", "eval(x)"⟩
        (fun _ => .ok (.str "Fine.")) = .ok a →
      (Policy.default.penalty a).isFinite = true) ∧
    ∃ r, outcome ({ assistant? := some .direct } :
        ReviewOptions AssistantCall (Except AssistantFailure Json)) ⟨"a.js", "eval(x)"⟩
        (fun _ => .ok (.str "Fine.")) = .ok r ∧ r.Coherent ∧
      r.score = 88 ∧ r.summary = Summary.good.text := by
  have hp : Policy.default.Accepted := by decide +kernel
  have hfinite : ∀ a, found ({ assistant? := some .direct } :
      ReviewOptions AssistantCall (Except AssistantFailure Json)) ⟨"a.js", "eval(x)"⟩
      (fun _ => .ok (.str "Fine.")) = .ok a → (Policy.default.penalty a).isFinite = true := by
    intro a ha
    obtain ⟨text, rfl⟩ := exists_remarks_of_found ha
    exact Policy.finiteOn_of_bounded hp (by decide +kernel) _ text
  obtain ⟨⟨r, hr, hcoherent⟩, -⟩ :=
    coherent_review (o := { assistant? := some .direct }) hp hfinite
  have hscore : (outcome ({ assistant? := some .direct } :
      ReviewOptions AssistantCall (Except AssistantFailure Json)) ⟨"a.js", "eval(x)"⟩
      (fun _ => .ok (.str "Fine."))).map (·.score) = .ok 88 := by
    decide +kernel
  rw [hr] at hscore
  have h88 : r.score = 88 := Except.ok.inj hscore
  refine ⟨hp, hfinite, r, hr, hcoherent, h88, hcoherent.band_good_iff.1 ?_⟩
  rw [h88]
  decide

end Review

end CodeReview
