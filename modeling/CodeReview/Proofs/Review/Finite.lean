import CodeReview.Proofs.Review.Batch
import CodeReview.Proofs.Rule.Count
import CodeReview.Proofs.Score.Bounded

/-!
Where files are reviewed at all. Neither a text nor an assistant keeps a file from its review, only
a penalty that is no finite number: an infinite weight, or weights that add up to infinity.
-/

namespace CodeReview

variable {Q A : Type}

/-- The penalty of a text is a finite number, with and without remarks of an assistant. -/
def Policy.FiniteOn (p : Policy) (content : String) : Prop :=
  ∀ remarks,
    (p.penalty (Review.withRemarks (Analysis.ofText content) remarks)).isFinite = true

namespace Review

theorem issues_withRemarks (a : Analysis) (remarks : String) :
    (withRemarks a remarks).issues = a.issues := by
  rw [withRemarks]
  split <;> rfl

theorem length_suggestions_withRemarks_le (a : Analysis) (remarks : String) :
    (withRemarks a remarks).suggestions.length ≤ a.suggestions.length + 1 := by
  rw [withRemarks]
  split
  · exact Nat.le_succ _
  · rw [List.length_append, List.length_singleton]

end Review

namespace Policy

theorem finiteOn_of_bounded {p : Policy} (hp : p.Accepted) (hb : p.Bounded) (content : String) :
    p.FiniteOn content := by
  intro remarks
  have hsuggestions := Review.length_suggestions_withRemarks_le (Analysis.ofText content) remarks
  have hrules := Analysis.length_suggestions_ofText_le content
  refine isFinite_penalty hp hb ?_ (by omega)
  rw [Review.issues_withRemarks]
  exact Analysis.length_issues_ofText_le content

theorem score_eq_error_iff {p : Policy} (hp : p.Accepted) {a : Analysis}
    {e : Binary64.NotInteger} : p.score a = .error e ↔ (p.penalty a).round = .error e := by
  cases h : p.penalty a with
  | nan =>
    rw [score, h, Score.ofPenalty_nan]
    simp [Binary64.round]
  | infinite s =>
    rw [score, h, Score.ofPenalty_infinite]
    simp [Binary64.round]
  | finite s u =>
    have hfinite : (p.penalty a).isFinite = true := by rw [h]; rfl
    obtain ⟨score, hscore⟩ := exists_score hp hfinite
    rw [hscore]
    simp [Binary64.round]

end Policy

theorem Binary64.isFinite_iff_round_ne_error {x : Binary64} :
    x.isFinite = true ↔ ∀ e, x.round ≠ .error e := by
  cases x <;> simp [isFinite, round]

namespace Review

theorem withRemarks_empty (a : Analysis) : withRemarks a "" = a := rfl

theorem exists_remarks_of_found {o : ReviewOptions Q A} {s : SourceFile} {reply : Q → A}
    {a : Analysis} (h : found o s reply = .ok a) :
    ∃ remarks, a = withRemarks (Analysis.ofText s.content) remarks := by
  simp only [found] at h
  split at h
  · cases h
  · split at h
    · exact ⟨"", by rw [withRemarks_empty, Except.ok.inj h]⟩
    · next r _ =>
      cases hr : remarks r with
      | error f => simp [hr, Except.map] at h
      | ok t =>
        rw [hr] at h
        exact ⟨t, (Except.ok.inj h).symm⟩

theorem outcome_eq_error_iff {o : ReviewOptions Q A} (hp : o.policy.Accepted) {s : SourceFile}
    {reply : Q → A} {e : Binary64.NotInteger} :
    outcome o s reply = .error e ↔
      ∃ a, found o s reply = .ok a ∧ (o.policy.penalty a).round = .error e := by
  cases h : found o s reply with
  | error f => simp [outcome_of_found_error h]
  | ok a =>
    rw [outcome_of_found_ok h, ofAnalysis_eq_error, Policy.score_eq_error_iff hp]
    simp

theorem exists_review_iff {o : ReviewOptions Q A} (hp : o.policy.Accepted) {s : SourceFile}
    {reply : Q → A} :
    (∃ r, outcome o s reply = .ok r) ↔
      ∀ a, found o s reply = .ok a → (o.policy.penalty a).isFinite = true := by
  constructor
  · rintro ⟨r, hr⟩ a ha
    refine Binary64.isFinite_iff_round_ne_error.2 fun e he => ?_
    have herr := (outcome_eq_error_iff hp).2 ⟨a, ha, he⟩
    rw [hr] at herr
    cases herr
  · intro hall
    cases h : outcome o s reply with
    | ok r => exact ⟨r, rfl⟩
    | error e =>
      obtain ⟨a, ha, he⟩ := (outcome_eq_error_iff hp).1 h
      exact absurd he (Binary64.isFinite_iff_round_ne_error.1 (hall a ha) e)

theorem exists_review {o : ReviewOptions Q A} (hp : o.policy.Accepted) {s : SourceFile}
    (hfinite : o.policy.FiniteOn s.content) (reply : Q → A) :
    ∃ r, outcome o s reply = .ok r := by
  refine (exists_review_iff hp).2 fun a ha => ?_
  obtain ⟨remarks, rfl⟩ := exists_remarks_of_found ha
  exact hfinite remarks

end Review

theorem Batch.exists_reviews_iff {o : ReviewOptions Q A} (wanted : Int)
    (sources : List SourceFile) (reply : Q → A) :
    (∃ reviews, ((review o wanted sources).result reply).outcome = .ok reviews) ↔
      ∀ s ∈ sources, ∃ r, Review.outcome o s reply = .ok r := by
  simp only [outcome_review_eq_ok_iff]
  induction sources with
  | nil => exact ⟨fun _ s hs => absurd hs List.not_mem_nil, fun _ => ⟨[], rfl⟩⟩
  | cons s ss ih =>
    rw [List.forall_mem_cons, ← ih]
    constructor
    · rintro ⟨reviews, h⟩
      cases reviews with
      | nil => simp at h
      | cons r rs =>
        simp only [List.map_cons, List.cons.injEq] at h
        exact ⟨⟨r, h.1⟩, rs, h.2⟩
    · rintro ⟨⟨r, hr⟩, rs, hrs⟩
      exact ⟨r :: rs, by rw [List.map_cons, List.map_cons, hr, hrs]⟩

namespace Review

/-- Under an accepted policy a file has a review exactly where the penalty of the analysis that the
review comes to is a finite number, whatever the text is and whatever an assistant does. A batch
has one review for each file exactly where every file has one, and weights of at most `2 ^ 1000`
leave no file without. -/
theorem reviewed_iff_isFinite_penalty {o : ReviewOptions Q A} (hp : o.policy.Accepted)
    (reply : Q → A) :
    (∀ s, (∃ r, outcome o s reply = .ok r) ↔
      ∀ a, found o s reply = .ok a → (o.policy.penalty a).isFinite = true) ∧
    (∀ s e, outcome o s reply = .error e ↔
      ∃ a, found o s reply = .ok a ∧ (o.policy.penalty a).round = .error e) ∧
    (∀ (wanted : Int) (sources : List SourceFile),
      (∃ reviews, ((Batch.review o wanted sources).result reply).outcome = .ok reviews ∧
        reviews.length = sources.length) ↔
      ∀ s ∈ sources, ∀ a, found o s reply = .ok a → (o.policy.penalty a).isFinite = true) ∧
    (o.policy.Bounded → ∀ s, ∃ r, outcome o s reply = .ok r) := by
  refine ⟨fun s => exists_review_iff hp, fun s e => outcome_eq_error_iff hp, ?_, ?_⟩
  · intro wanted sources
    have hbatch := Batch.exists_reviews_iff (o := o) wanted sources reply
    simp only [exists_review_iff hp] at hbatch
    rw [← hbatch]
    constructor
    · rintro ⟨reviews, h, -⟩
      exact ⟨reviews, h⟩
    · rintro ⟨reviews, h⟩
      have hlen := congrArg List.length (Batch.outcome_review_eq_ok_iff.1 h)
      rw [List.length_map, List.length_map] at hlen
      exact ⟨reviews, h, hlen.symm⟩
  · intro hb s
    exact exists_review hp (Policy.finiteOn_of_bounded hp hb s.content) reply

theorem reviewed_under_default_policy :
    Policy.default.Accepted ∧ Policy.default.Bounded ∧
    ∃ r, outcome ({ assistant? := some .direct } :
        ReviewOptions AssistantCall (Except AssistantFailure Json))
      ⟨"a.js", "eval(x)\nel.innerHTML = y"⟩ (fun _ => .ok (.str "Fine.")) = .ok r := by
  have hp : Policy.default.Accepted := by decide +kernel
  have hb : Policy.default.Bounded := by decide +kernel
  exact ⟨hp, hb, (reviewed_iff_isFinite_penalty (o := { assistant? := some .direct }) hp
    (fun _ => .ok (.str "Fine."))).2.2.2 hb _⟩

/-- Two issues of weight `10 ^ 308` are together more than the format has room for. -/
theorem not_reviewed_under_huge_weight :
    (Policy.flat { issue := .ofRatio false (10 ^ 308) 1 }).Accepted ∧
    outcome ({ policy := .flat { issue := .ofRatio false (10 ^ 308) 1 } } :
        ReviewOptions AssistantCall (Except AssistantFailure Json))
      ⟨"a.js", "eval(x)\nel.innerHTML = y"⟩ (fun _ => .ok .null) = .error .infinite := by
  decide +kernel

end Review

end CodeReview
