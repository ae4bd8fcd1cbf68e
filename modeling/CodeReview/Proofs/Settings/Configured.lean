import CodeReview.Configuration
import CodeReview.Proofs.Settings.Scoring

/-!
What comes of the choices of a user. They are configured under the policy of the name that is chosen
and with a client where one is asked for, or there is a reason to refuse them: the name, the weights
or the missing key.
-/

namespace CodeReview.Settings

variable {s : Settings} {c : Choices} {p : Policy} {o : ReviewOptions Request Delivery}

theorem configure_of_unknownName {n : String}
    (h : s.scoring (some c.policy) = .error (.unknownName n)) :
    s.configure c = .error (.refused (PolicyError.unknownNameMessage n)) := by
  unfold configure
  rw [h]

theorem configure_of_invalidWeights {k : PolicyKind} {es : List FieldError}
    (h : s.scoring (some c.policy) = .error (.invalidWeights k es)) :
    s.configure c = .error (.failed (.invalidWeights k es)) := by
  unfold configure
  rw [h]

theorem configure_of_scoring (hscoring : s.scoring (some c.policy) = .ok p) (hai : c.ai = false) :
    s.configure c = .ok ⟨p, c.rejectEmpty, none⟩ := by
  unfold configure
  rw [hscoring]
  simp only [hai, Bool.false_eq_true, if_false]

theorem configure_of_no_client (hpolicy : s.scoring (some c.policy) = .ok p) (hai : c.ai = true)
    (hclient : s.client? c = none) :
    s.configure c = .error (.refused Client.missingKeyMessage) := by
  unfold configure
  rw [hpolicy]
  dsimp only
  rw [if_pos hai, hclient]

theorem configure_of_client {client : Client} (hpolicy : s.scoring (some c.policy) = .ok p)
    (hai : c.ai = true) (hclient : s.client? c = some client) :
    s.configure c = .ok ⟨p, c.rejectEmpty, some client.assistant⟩ := by
  unfold configure
  rw [hpolicy]
  dsimp only
  rw [if_pos hai, hclient]

theorem scoring_of_configure (h : s.configure c = .ok o) :
    s.scoring (some c.policy) = .ok o.policy := by
  unfold configure at h
  split at h
  · cases h
  · cases h
  · next hpolicy =>
    rw [hpolicy]
    split at h
    · split at h
      · cases h
      · cases h
        rfl
    · cases h
      rfl

theorem accepted_of_configure (h : s.configure c = .ok o) : o.policy.Accepted :=
  accepted_of_scoring (scoring_of_configure h)

theorem exists_of_configure (h : s.configure c = .ok o) :
    (∃ p, s.scoring (some c.policy) = .ok p) ∧ (c.ai = true → s.client? c ≠ none) ∧
      (c.ai = false → o.assistant? = none) := by
  have hpolicy := scoring_of_configure h
  refine ⟨⟨_, hpolicy⟩, fun hai hclient => ?_, fun hai => ?_⟩
  · rw [configure_of_no_client hpolicy hai hclient] at h
    cases h
  · rw [configure_of_scoring hpolicy hai] at h
    rw [← Except.ok.inj h]

end CodeReview.Settings
