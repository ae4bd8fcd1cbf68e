import CodeReview.Proofs.Number.Order
import CodeReview.Score.Policy

/-!
Accepted policies: those whose weights are not negative. They are exactly the policies that come
of a check of given weights.
-/

namespace CodeReview

namespace Checked

variable {α β : Type}

theorem map_eq_valid {f : α → β} {x : Checked α} {b : β} :
    (f <$> x) = .valid b ↔ ∃ a, x = .valid a ∧ f a = b := by
  cases x <;> simp [Functor.map, map]

theorem seq_eq_valid {f : Checked (α → β)} {x : Checked α} {b : β} :
    (f <*> x) = .valid b ↔ ∃ g a, f = .valid g ∧ x = .valid a ∧ g a = b := by
  cases f <;> cases x <;> simp [Seq.seq, both, map]

theorem at_eq_valid {name : String} {x : Checked α} {a : α} :
    x.at_ name = .valid a ↔ x = .valid a := by
  cases x <;> simp [at_]

end Checked

namespace Policy

def weights : Policy → List Binary64
  | .flat w => [w.issue, w.suggestion]
  | .severity w => [w.critical, w.high, w.medium, w.low, w.suggestion]

/-- No weight is negative, and none is the number that is none. -/
def Accepted (p : Policy) : Prop :=
  ∀ w ∈ p.weights, Binary64.le 0 w = true

instance (p : Policy) : Decidable p.Accepted :=
  inferInstanceAs (Decidable (∀ w ∈ p.weights, Binary64.le 0 w = true))

theorem le_of_weight {j : Json} {w : Binary64} (h : Check.weight j = .valid w) :
    Binary64.le 0 w = true := by
  simp only [Check.weight, Checked.bind] at h
  split at h
  · split at h
    · next hle =>
      cases h
      exact hle
    · simp [Checked.fail] at h
  · simp at h

theorem weight_float {w : Binary64} (h : Binary64.le 0 w = true) :
    Check.weight (.float w) = .valid w := by
  simp [Check.weight, Check.number, Checked.bind, h]

theorem le_of_optional {j : Json} {name : String} {d w : Binary64} (hd : Binary64.le 0 d = true)
    (h : Check.optional j name d Check.weight = .valid w) : Binary64.le 0 w = true := by
  simp only [Check.optional] at h
  split at h
  · exact le_of_weight (Checked.at_eq_valid.1 h)
  · cases h
    exact hd

theorem accepted_of_checkFlat {j : Json} {p : Policy} (h : checkFlat j = .valid p) :
    p.Accepted := by
  simp only [checkFlat, Checked.seq_eq_valid, Checked.map_eq_valid] at h
  obtain ⟨_, suggestion, ⟨_, issue, ⟨_, -, rfl⟩, hi, rfl⟩, hs, rfl⟩ := h
  simp only [Accepted, weights, List.forall_mem_cons, List.not_mem_nil, false_implies,
    implies_true, and_true]
  exact ⟨le_of_optional (by decide +kernel) hi, le_of_optional (by decide +kernel) hs⟩

theorem accepted_of_checkSeverity {j : Json} {p : Policy} (h : checkSeverity j = .valid p) :
    p.Accepted := by
  simp only [checkSeverity, Checked.seq_eq_valid, Checked.map_eq_valid] at h
  obtain ⟨_, suggestion, ⟨_, low, ⟨_, medium, ⟨_, high, ⟨_, critical, ⟨_, -, rfl⟩, hc, rfl⟩,
    hh, rfl⟩, hm, rfl⟩, hl, rfl⟩, hs, rfl⟩ := h
  simp only [Accepted, weights, List.forall_mem_cons, List.not_mem_nil, false_implies,
    implies_true, and_true]
  exact ⟨le_of_optional (by decide +kernel) hc, le_of_optional (by decide +kernel) hh,
    le_of_optional (by decide +kernel) hm, le_of_optional (by decide +kernel) hl,
    le_of_optional (by decide +kernel) hs⟩

theorem accepted_of_ofWeights {k : PolicyKind} {j : Json} {p : Policy}
    (h : ofWeights k j = .ok p) : p.Accepted := by
  cases k with
  | flat =>
    simp only [ofWeights] at h
    split at h
    · next hc =>
      cases h
      exact accepted_of_checkFlat hc
    · simp at h
  | severity =>
    simp only [ofWeights] at h
    split at h
    · next hc =>
      cases h
      exact accepted_of_checkSeverity hc
    · simp at h

theorem ofWeights_toJson {p : Policy} (h : p.Accepted) : ofWeights p.kind p.toJson = .ok p := by
  cases p with
  | flat w =>
    have hi := weight_float (h w.issue (by simp [weights]))
    have hs := weight_float (h w.suggestion (by simp [weights]))
    simp [ofWeights, kind, toJson, checkFlat, checkKind, Check.optional, Json.field?, hi, hs,
      Check.choice, Checked.at_, Functor.map, Seq.seq, Checked.both, Checked.map]
  | severity w =>
    have hc := weight_float (h w.critical (by simp [weights]))
    have hh := weight_float (h w.high (by simp [weights]))
    have hm := weight_float (h w.medium (by simp [weights]))
    have hl := weight_float (h w.low (by simp [weights]))
    have hs := weight_float (h w.suggestion (by simp [weights]))
    simp [ofWeights, kind, toJson, checkSeverity, checkKind, Check.optional, Json.field?, hc, hh,
      hm, hl, hs, Check.choice, Checked.at_, Functor.map, Seq.seq, Checked.both, Checked.map]

theorem accepted_iff_exists_weights (p : Policy) :
    p.Accepted ↔ ∃ j, ofWeights p.kind j = .ok p :=
  ⟨fun h => ⟨p.toJson, ofWeights_toJson h⟩, fun ⟨_, h⟩ => accepted_of_ofWeights h⟩

end Policy

end CodeReview
