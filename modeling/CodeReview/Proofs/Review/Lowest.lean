import CodeReview.Proofs.Review.Coherent

/-!
The lowest scores of reviews. No review that does not fail is worse than one in which everything was
found. With the default weights of either kind even that one scores above 0, so that a score of 0
tells of a failure, and of nothing else.
-/

namespace CodeReview

namespace Analysis

def everyFinding (s : Side) : List Finding :=
  (Rule.battery.filter fun r => r.side == s).map fun r => r.findingAt none

/-- Everything that can be found: a finding of every rule, and the remarks of an assistant. -/
def fullest : Analysis where
  issues := everyFinding .issue
  suggestions := everyFinding .suggestion ++ [Review.remarkFinding ""]

theorem atMost_fullest (content remarks : String) :
    (Review.withRemarks (ofText content) remarks).AtMost fullest := by
  constructor
  · have hseverity : ∀ r line, (Rule.findingAt r line).severity = r.severity := fun _ _ => rfl
    rw [Review.issues_withRemarks, fullest, everyFinding, List.map_map]
    exact map_issues_run_sublist hseverity Rule.battery content
  · have hremarks := Review.length_suggestions_withRemarks_le (ofText content) remarks
    have hrules := length_suggestions_ofText_le content
    have hfullest : fullest.suggestions.length = 7 := rfl
    omega

end Analysis

namespace Review

variable {Q A : Type} {o : ReviewOptions Q A} {low : Score}

theorem low_le_score (hp : o.policy.Accepted) (hb : o.policy.Bounded)
    (hlow : o.policy.score .fullest = .ok low) {s : SourceFile} {reply : Q → A} {r : Review}
    (h : outcome o s reply = .ok r) (hr : r.failed = false) : low ≤ r.score := by
  cases hfound : found o s reply with
  | error f =>
    rw [outcome_of_found_error hfound] at h
    cases h
    cases hr
  | ok a =>
    rw [outcome_of_found_ok hfound] at h
    obtain ⟨score, hscore, rfl⟩ := ofAnalysis_eq_ok.1 h
    obtain ⟨remarks, rfl⟩ := exists_remarks_of_found hfound
    have hfinite := Policy.finiteOn_of_bounded hp hb s.content remarks
    have hfullest : (o.policy.penalty .fullest).isFinite = true :=
      Policy.isFinite_penalty hp hb (by decide) (by decide)
    exact Policy.score_le hp (.refl hp) (Analysis.atMost_fullest _ _) hfinite hfullest hscore hlow

theorem score_eq_zero_iff_failed (hp : o.policy.Accepted) (hb : o.policy.Bounded)
    (hlow : o.policy.score .fullest = .ok low) (hpos : 0 < low) {s : SourceFile} {reply : Q → A}
    {r : Review} (h : outcome o s reply = .ok r) : r.score = 0 ↔ r.failed = true := by
  constructor
  · intro hzero
    by_contra hr
    have hle := low_le_score hp hb hlow h (Bool.eq_false_iff.2 hr)
    rw [hzero] at hle
    exact Nat.not_lt.2 hle hpos
  · exact fun hr => ((coherent_of_outcome h).of_failed hr).1

theorem exists_review_from {p : Policy} (hp : p.Accepted) (hb : p.Bounded)
    (hlow : p.score .fullest = .ok low) (hpos : 0 < low) (o : ReviewOptions Q A) (s : SourceFile)
    (reply : Q → A) :
    ∃ r, outcome { o with policy := p } s reply = .ok r ∧ (r.failed = false → low ≤ r.score) ∧
      (r.score = 0 ↔ r.failed = true) := by
  obtain ⟨r, hr⟩ := exists_review (o := { o with policy := p }) hp
    (Policy.finiteOn_of_bounded hp hb s.content) reply
  have hscore := score_eq_zero_iff_failed (o := { o with policy := p }) hp hb hlow hpos hr
  exact ⟨r, hr, low_le_score (o := { o with policy := p }) hp hb hlow hr, hscore⟩

/-- With the default weights every file has a review, whatever an assistant does, and the review
scores 0 exactly if it failed: else it has at least 31 where issues are weighed by their severity,
and at least 5 where findings are counted. -/
theorem lowest_scores (o : ReviewOptions Q A) (s : SourceFile) (reply : Q → A) :
    (∃ r, outcome { o with policy := .severity {} } s reply = .ok r ∧
      (r.failed = false → 31 ≤ r.score) ∧ (r.score = 0 ↔ r.failed = true)) ∧
    ∃ r, outcome { o with policy := .flat {} } s reply = .ok r ∧
      (r.failed = false → 5 ≤ r.score) ∧ (r.score = 0 ↔ r.failed = true) := by
  constructor
  · exact exists_review_from (by decide +kernel) (by decide +kernel) (by decide +kernel)
      (by decide) o s reply
  · exact exists_review_from (by decide +kernel) (by decide +kernel) (by decide +kernel)
      (by decide) o s reply

end Review

end CodeReview
