import CodeReview.Proofs.Score.Penalty

/-!
More findings and larger weights. Neither one more finding, wherever it stands, nor a larger weight
ever makes a better score or a better summary.
-/

namespace CodeReview

namespace Analysis

variable {a b : Analysis}

/-- One finding more, at any place among the issues or among the suggestions. -/
inductive OneMore (f : Finding) : Analysis → Analysis → Prop
  | issue (before after suggestions : List Finding) :
      OneMore f ⟨before ++ after, suggestions⟩ ⟨before ++ f :: after, suggestions⟩
  | suggestion (issues before after : List Finding) :
      OneMore f ⟨issues, before ++ after⟩ ⟨issues, before ++ f :: after⟩

theorem OneMore.atMost {f : Finding} (h : OneMore f a b) : a.AtMost b := by
  cases h with
  | issue before after suggestions =>
    constructor
    · rw [List.map_append, List.map_append, List.map_cons]
      exact (List.Sublist.refl _).append (List.sublist_cons_self _ _)
    · exact Nat.le_refl _
  | suggestion issues before after =>
    constructor
    · exact List.Sublist.refl _
    · simp only [List.length_append, List.length_cons]
      omega

theorem AtMost.refl (a : Analysis) : a.AtMost a :=
  ⟨List.Sublist.refl _, Nat.le_refl _⟩

theorem hasCritical_iff : a.hasCritical = true ↔ .critical ∈ a.issues.map (·.severity) := by
  simp [hasCritical]

theorem AtMost.hasCritical (h : a.AtMost b) (ha : a.hasCritical = true) : b.hasCritical = true :=
  hasCritical_iff.2 (h.issues.subset (hasCritical_iff.1 ha))

end Analysis

namespace Summary

def rank : Summary → Nat
  | .excellent => 0
  | .good => 1
  | .significant => 2
  | .critical => 3

theorem rank_ofReached_le {reaches reaches' : Nat → Bool} {critical critical' : Bool}
    (h : ∀ n, reaches' n = true → reaches n = true) (hcritical : critical = true → critical' = true) :
    (ofReached reaches critical).rank ≤ (ofReached reaches' critical').rank := by
  cases h90 : reaches 90 with
  | true => simp [ofReached, h90, rank]
  | false =>
    have h90' : reaches' 90 = false := by simpa [h90] using h 90
    cases h75 : reaches 75 with
    | true =>
      cases h75' : reaches' 75 <;> cases critical' <;>
        simp [ofReached, h90, h90', h75, h75', rank]
    | false =>
      have h75' : reaches' 75 = false := by simpa [h75] using h 75
      cases critical with
      | true => simp [ofReached, h90, h90', h75, h75', hcritical rfl, rank]
      | false => cases critical' <;> simp [ofReached, h90, h90', h75, h75', rank]

theorem rank_ofScore_le {s t : Score} {critical critical' : Bool} (h : t ≤ s)
    (hcritical : critical = true → critical' = true) :
    (ofScore s.val critical).rank ≤ (ofScore t.val critical').rank := by
  refine rank_ofReached_le (fun n hn => ?_) hcritical
  rw [decide_eq_true_eq] at hn ⊢
  exact Int.le_trans hn (Int.ofNat_le.2 h)

end Summary

/-- One step to what costs more: a finding more under the same policy, or the same findings under a
policy with a larger weight, or with several. -/
inductive Costlier (p : Policy) (a : Analysis) : Policy → Analysis → Prop
  | finding {f : Finding} {b : Analysis} (more : a.OneMore f b) : Costlier p a p b
  | weight {q : Policy} (larger : p.AtMost q) : Costlier p a q a

namespace Policy

variable {p q : Policy} {a b : Analysis}

theorem atMost_of_costlier (hp : p.Accepted) (h : Costlier p a q b) :
    p.AtMost q ∧ a.AtMost b := by
  cases h with
  | finding more => exact ⟨.refl hp, more.atMost⟩
  | weight larger => exact ⟨larger, .refl a⟩

/-- Where the penalties are finite numbers before and after a step to what costs more, both have a
score, the later score is not larger, and the later summary is not better. -/
theorem not_better_of_costlier (hp : p.Accepted) (h : Costlier p a q b)
    (ha : (p.penalty a).isFinite = true) (hb : (q.penalty b).isFinite = true) :
    ∃ s t, p.score a = .ok s ∧ q.score b = .ok t ∧ t ≤ s ∧
      (Summary.ofScore s.val a.hasCritical).rank ≤ (Summary.ofScore t.val b.hasCritical).rank := by
  obtain ⟨hpq, hab⟩ := atMost_of_costlier hp h
  obtain ⟨s, hs⟩ := exists_score hp ha
  obtain ⟨t, ht⟩ := exists_score (hp.of_atMost hpq) hb
  have hle : t ≤ s := score_le hp hpq hab ha hb hs ht
  exact ⟨s, t, hs, ht, hle, Summary.rank_ofScore_le hle hab.hasCritical⟩

theorem not_better_with_issue_between :
    let p : Policy := .severity { critical := .ofRatio false 41 2, high := .ofRatio false 1 10 }
    let high : Finding := { severity := .high, message := "Avoid using eval() - security risk" }
    let critical : Finding := { severity := .critical, message := "Hardcoded credentials detected" }
    p.Accepted ∧ Costlier p ⟨[high, high], []⟩ p ⟨[high, critical, high], []⟩ ∧
      (p.penalty ⟨[high, high], []⟩).isFinite = true ∧
      (p.penalty ⟨[high, critical, high], []⟩).isFinite = true ∧
      ∃ s t, p.score ⟨[high, high], []⟩ = .ok s ∧ p.score ⟨[high, critical, high], []⟩ = .ok t ∧
        t ≤ s ∧ (Summary.ofScore s.val false).rank ≤ (Summary.ofScore t.val true).rank := by
  intro p high critical
  have hp : p.Accepted := by decide +kernel
  have hmore : Costlier p ⟨[high, high], []⟩ p ⟨[high, critical, high], []⟩ :=
    .finding (.issue [high] [high] [])
  have ha : (p.penalty ⟨[high, high], []⟩).isFinite = true := by decide +kernel
  have hb : (p.penalty ⟨[high, critical, high], []⟩).isFinite = true := by decide +kernel
  exact ⟨hp, hmore, ha, hb, not_better_of_costlier hp hmore ha hb⟩

end Policy

end CodeReview
