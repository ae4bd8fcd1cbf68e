import CodeReview.Proofs.Number.Within
import CodeReview.Proofs.Score.Penalty

/-!
Bounded weights. Where no weight is larger than `2 ^ 1000`, the penalty of a few findings is a
finite number, so every such analysis has a score.
-/

namespace CodeReview.Policy

open Binary64

def largeWeight : Binary64 := .ofRatio false (2 ^ 1000) 1

def Bounded (p : Policy) : Prop :=
  ∀ w ∈ p.weights, Binary64.le w largeWeight = true

instance (p : Policy) : Decidable p.Bounded :=
  inferInstanceAs (Decidable (∀ w ∈ p.weights, Binary64.le w largeWeight = true))

theorem within_of_le {w : Binary64} (h0 : Binary64.le 0 w = true)
    (h : Binary64.le w largeWeight = true) : Within 2074 w := by
  have hl : largeWeight = .finite false (2 ^ 2074) := by decide +kernel
  have hnonneg := units_nonneg_of_le h0
  have hz : (0 : Binary64) = .finite false 0 := by decide +kernel
  rw [hl] at h
  rw [hz] at h0
  cases w with
  | nan => simp [le] at h
  | infinite s => cases s <;> simp [le] at h h0
  | finite s u =>
    rw [le_iff_units rfl rfl, units_finite false, signed_false] at h
    refine ⟨rfl, hnonneg, ?_⟩
    generalize 2 ^ 2074 = b at h ⊢
    omega

theorem isFinite_penalty {p : Policy} (hp : p.Accepted) (hb : p.Bounded) {a : Analysis}
    (hi : a.issues.length ≤ 4) (hs : a.suggestions.length ≤ 8) : (p.penalty a).isFinite := by
  have hw : ∀ w ∈ p.weights, Within 2074 w := fun w hw => within_of_le (hp w hw) (hb w hw)
  cases p with
  | flat w =>
    have hissue : Within 2077 (w.issue * ofNat a.issues.length) :=
      (hw w.issue (by simp [weights])).mul_ofNat (m := 3) (by omega) (by decide) (by decide)
    have hsuggestion : Within 2077 (w.suggestion * ofNat a.suggestions.length) :=
      (hw w.suggestion (by simp [weights])).mul_ofNat (m := 3) (by omega) (by decide) (by decide)
    exact (hissue.add hsuggestion (by decide)).finite
  | severity w =>
    have hcosts : ∀ c ∈ a.issues.map (fun f => w.ofSeverity f.severity), Within 2074 c := by
      intro c hc
      obtain ⟨f, -, rfl⟩ := List.mem_map.1 hc
      refine hw _ ?_
      cases f.severity <;> simp [weights, SeverityWeights.ofSeverity]
    have hlen : 2074 + (a.issues.map fun f => w.ofSeverity f.severity).length ≤ 2078 := by
      rw [List.length_map]
      omega
    have hissues : Within 2078 (total (a.issues.map fun f => w.ofSeverity f.severity)) :=
      ((within_zero 2074).foldl hcosts (by omega)).mono hlen
    have hsuggestion : Within 2077 (w.suggestion * ofNat a.suggestions.length) :=
      (hw w.suggestion (by simp [weights])).mul_ofNat (m := 3) (by omega) (by decide) (by decide)
    exact (hissues.add (hsuggestion.mono (by decide)) (by decide)).finite

end CodeReview.Policy
