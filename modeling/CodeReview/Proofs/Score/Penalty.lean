import CodeReview.Proofs.Score.Accepted
import CodeReview.Score

/-!
Penalties and scores under accepted policies. There is a score exactly where the penalty is a
finite number, and a larger penalty never makes a better score; neither more findings nor larger
weights ever make the penalty smaller.
-/

namespace CodeReview

open Binary64

theorem isFinite_of_foldl {acc : Binary64} {costs : List Binary64}
    (h : (costs.foldl (· + ·) acc).isFinite) : acc.isFinite := by
  induction costs generalizing acc with
  | nil => exact h
  | cons c cs ih => exact (units_add (ih h)).1

theorem foldl_units_nonneg {acc : Binary64} {costs : List Binary64}
    (h : (costs.foldl (· + ·) acc).isFinite) (hacc : 0 ≤ acc.units)
    (hcosts : ∀ c ∈ costs, 0 ≤ c.units) : 0 ≤ (costs.foldl (· + ·) acc).units := by
  induction costs generalizing acc with
  | nil => exact hacc
  | cons c cs ih =>
    have hc : 0 ≤ c.units := hcosts c List.mem_cons_self
    have hfold : (cs.foldl (· + ·) (acc + c)).isFinite := h
    have hsum : (acc + c).isFinite := isFinite_of_foldl hfold
    exact ih h (add_units_nonneg hsum hacc hc) fun d hd => hcosts d (List.mem_cons_of_mem _ hd)

theorem total_units_nonneg {costs : List Binary64} (h : (Policy.total costs).isFinite)
    (hcosts : ∀ c ∈ costs, 0 ≤ c.units) : 0 ≤ (Policy.total costs).units :=
  foldl_units_nonneg h (ofNat_units_nonneg 0) hcosts

/-- Each cost no smaller, and further costs between them, make a sum that is no smaller. The sum on
the larger side is always a rounded one, so that adding to it cannot make it smaller. -/
theorem foldl_units_le {α : Type} {v w : α → Binary64} (hvw : ∀ a, (v a).le (w a) = true)
    (hw : ∀ a, 0 ≤ (w a).units) {as bs : List α} (h : as.Sublist bs) {x y : Binary64}
    (hxy : x.units ≤ y.units) (hy : y.Representable)
    (hfinite : ((as.map v).foldl (· + ·) x).isFinite)
    (hfinite' : ((bs.map w).foldl (· + ·) y).isFinite) :
    ((as.map v).foldl (· + ·) x).units ≤ ((bs.map w).foldl (· + ·) y).units := by
  -- the larger sum stays a rounded one, so that adding a cost to it cannot make it smaller
  induction h generalizing x y with
  | slnil => exact hxy
  | cons a _ ih =>
    rw [List.map_cons, List.foldl_cons] at hfinite' ⊢
    have hsum : (y + w a).isFinite := isFinite_of_foldl hfinite'
    have hle : x.units ≤ (y + w a).units := Int.le_trans hxy (le_add_units hy hsum (hw a))
    exact ih hle (representable_add hsum) hfinite hfinite'
  | cons_cons a _ ih =>
    rw [List.map_cons, List.foldl_cons] at hfinite hfinite'
    rw [List.map_cons, List.foldl_cons, List.map_cons, List.foldl_cons]
    have hsum : (x + v a).isFinite := isFinite_of_foldl hfinite
    have hsum' : (y + w a).isFinite := isFinite_of_foldl hfinite'
    have hcost : (v a).units ≤ (w a).units :=
      (le_iff_units (units_add hsum).2.1 (units_add hsum').2.1).1 (hvw a)
    exact ih (add_units_le hsum hsum' hxy hcost) (representable_add hsum') hfinite hfinite'

theorem units_nonneg_of_le {w : Binary64} (h : Binary64.le 0 w = true) : 0 ≤ w.units := by
  cases w with
  | nan => exact Int.le_refl 0
  | infinite s => exact Int.le_refl 0
  | finite s u =>
    have h0 : (0 : Binary64) = .finite false 0 := by decide +kernel
    rw [h0] at h
    simpa [le, signed] using h

namespace Policy

theorem Accepted.flat {w : FlatWeights} (h : (Policy.flat w).Accepted) :
    0 ≤ w.issue.units ∧ 0 ≤ w.suggestion.units := by
  constructor
  · exact units_nonneg_of_le (h _ (by simp [weights]))
  · exact units_nonneg_of_le (h _ (by simp [weights]))

theorem Accepted.severity {w : SeverityWeights} (h : (Policy.severity w).Accepted) :
    (∀ s, 0 ≤ (w.ofSeverity s).units) ∧ 0 ≤ w.suggestion.units := by
  constructor
  · intro s
    refine units_nonneg_of_le (h _ ?_)
    cases s <;> simp [weights, SeverityWeights.ofSeverity]
  · exact units_nonneg_of_le (h _ (by simp [weights]))

theorem representable_penalty {p : Policy} {a : Analysis} (h : (p.penalty a).isFinite) :
    (p.penalty a).Representable := by
  cases p with
  | flat w => exact representable_add h
  | severity w => exact representable_add h

theorem penalty_units_nonneg {p : Policy} (hp : p.Accepted) {a : Analysis}
    (h : (p.penalty a).isFinite) : 0 ≤ (p.penalty a).units := by
  cases p with
  | flat w =>
    obtain ⟨hi, hs, -⟩ := units_add h
    exact add_units_nonneg h
      (mul_units_nonneg hi hp.flat.1 (ofNat_units_nonneg _))
      (mul_units_nonneg hs hp.flat.2 (ofNat_units_nonneg _))
  | severity w =>
    obtain ⟨hi, hs, -⟩ := units_add h
    refine add_units_nonneg h (total_units_nonneg hi ?_)
      (mul_units_nonneg hs hp.severity.2 (ofNat_units_nonneg _))
    intro c hc
    obtain ⟨f, -, rfl⟩ := List.mem_map.1 hc
    exact hp.severity.1 f.severity

theorem cost_of_count_le {v w : Binary64} (hvw : v.le w = true) (hw : 0 ≤ w.units) {m n : Nat}
    (hmn : m ≤ n) (hm : (v * ofNat m).isFinite) (hn : (w * ofNat n).isFinite) :
    (v * ofNat m).units ≤ (w * ofNat n).units := by
  obtain ⟨hv, hm', -⟩ := units_mul hm
  obtain ⟨hw', hn', -⟩ := units_mul hn
  exact mul_units_le hm hn ((le_iff_units hv hw').1 hvw) (ofNat_units_le hm' hn' hmn) hw
    (ofNat_units_nonneg m)

/-- Policies of one kind, of which the second has no smaller weight. -/
inductive AtMost : Policy → Policy → Prop
  | flat {v w : FlatWeights} (issue : v.issue.le w.issue = true)
      (suggestion : v.suggestion.le w.suggestion = true) : AtMost (.flat v) (.flat w)
  | severity {v w : SeverityWeights} (issue : ∀ s, (v.ofSeverity s).le (w.ofSeverity s) = true)
      (suggestion : v.suggestion.le w.suggestion = true) : AtMost (.severity v) (.severity w)

theorem AtMost.refl {p : Policy} (hp : p.Accepted) : p.AtMost p := by
  cases p with
  | flat w => exact .flat (le_self (hp _ (by simp [weights]))) (le_self (hp _ (by simp [weights])))
  | severity w =>
    refine .severity (fun s => le_self (hp _ ?_)) (le_self (hp _ (by simp [weights])))
    cases s <;> simp [weights, SeverityWeights.ofSeverity]

theorem Accepted.of_atMost {p q : Policy} (hp : p.Accepted) (h : p.AtMost q) : q.Accepted := by
  cases h with
  | flat issue suggestion =>
    simp only [Accepted, weights, List.forall_mem_cons, List.not_mem_nil, false_implies,
      implies_true, and_true] at hp ⊢
    exact ⟨le_trans hp.1 issue, le_trans hp.2 suggestion⟩
  | severity issue suggestion =>
    simp only [Accepted, weights, List.forall_mem_cons, List.not_mem_nil, false_implies,
      implies_true, and_true] at hp ⊢
    obtain ⟨hc, hh, hm, hl, hs⟩ := hp
    exact ⟨le_trans hc (issue .critical), le_trans hh (issue .high), le_trans hm (issue .medium),
      le_trans hl (issue .low), le_trans hs suggestion⟩

end Policy

/-- The second analysis found all that the first did, as far as it is counted: each issue with its
severity and in its order, and the number of suggestions. -/
structure Analysis.AtMost (a b : Analysis) : Prop where
  issues : (a.issues.map (·.severity)).Sublist (b.issues.map (·.severity))
  suggestions : a.suggestions.length ≤ b.suggestions.length

namespace Policy

theorem penalty_units_le {p q : Policy} (hp : p.Accepted) (hpq : p.AtMost q) {a b : Analysis}
    (hab : a.AtMost b) (ha : (p.penalty a).isFinite) (hb : (q.penalty b).isFinite) :
    (p.penalty a).units ≤ (q.penalty b).units := by
  have hq := hp.of_atMost hpq
  cases hpq with
  | @flat v w issue suggestion =>
    obtain ⟨hai, has, -⟩ := units_add ha
    obtain ⟨hbi, hbs, -⟩ := units_add hb
    have hissues : a.issues.length ≤ b.issues.length := by
      simpa using hab.issues.length_le
    exact add_units_le ha hb (cost_of_count_le issue hq.flat.1 hissues hai hbi)
      (cost_of_count_le suggestion hq.flat.2 hab.suggestions has hbs)
  | @severity v w issue suggestion =>
    obtain ⟨hai, has, -⟩ := units_add ha
    obtain ⟨hbi, hbs, -⟩ := units_add hb
    refine add_units_le ha hb ?_ (cost_of_count_le suggestion hq.severity.2 hab.suggestions has hbs)
    have hcosts (w : SeverityWeights) (fs : List Finding) :
        (fs.map fun f => w.ofSeverity f.severity) = (fs.map (·.severity)).map w.ofSeverity := by
      rw [List.map_map]
      rfl
    rw [hcosts] at hai hbi ⊢
    rw [hcosts]
    exact foldl_units_le issue hq.severity.1 hab.issues (Int.le_refl _) representable_zero hai hbi

end Policy

namespace Score

theorem hundred_eq : (100 : Binary64) = .finite false (100 * unitsOfOne) := by decide +kernel

theorem representable_hundred : (100 : Binary64).Representable := by
  rw [hundred_eq]
  exact ⟨rfl, by decide +kernel, by decide +kernel⟩

theorem hundred_units_nonneg : 0 ≤ (100 : Binary64).units := ofNat_units_nonneg 100

theorem clamp_mono {i j : Int} (h : i ≤ j) : clamp i ≤ clamp j := by
  simp only [clamp, Fin.mk_le_mk]
  omega

theorem ofPenalty_of_round {x : Binary64} {i : Int} (h : (100 - x).round = .ok i) :
    ofPenalty x = .ok (clamp i) := by
  rw [ofPenalty, h]
  rfl

theorem ofPenalty_of_finite {x : Binary64} (hx : x.Representable) (h0 : 0 ≤ x.units) :
    ofPenalty x = .ok (clamp (onSigned (roundHalfEven · unitsOfOne) (100 - x).units)) := by
  have hfinite := isFinite_sub representable_hundred hx hundred_units_nonneg h0
  have hround := round_eq hfinite
  exact ofPenalty_of_round hround

theorem ofPenalty_nan : ofPenalty .nan = .error .nan := by
  have h : (100 : Binary64) - .nan = .nan := by
    rw [hundred_eq]
    rfl
  rw [ofPenalty, h]
  rfl

theorem ofPenalty_infinite (s : Bool) : ofPenalty (.infinite s) = .error .infinite := by
  have h : (100 : Binary64) - .infinite s = .infinite !s := by
    rw [hundred_eq]
    rfl
  rw [ofPenalty, h]
  rfl

theorem ofPenalty_anti {x y : Binary64} (hx : x.Representable) (hy : y.Representable)
    (h0 : 0 ≤ x.units) (hxy : x.units ≤ y.units) {s t : Score} (hs : ofPenalty x = .ok s)
    (ht : ofPenalty y = .ok t) : t ≤ s := by
  have hy0 : 0 ≤ y.units := Int.le_trans h0 hxy
  have hfx := isFinite_sub representable_hundred hx hundred_units_nonneg h0
  have hfy := isFinite_sub representable_hundred hy hundred_units_nonneg hy0
  rw [ofPenalty_of_finite hx h0] at hs
  rw [ofPenalty_of_finite hy hy0] at ht
  rw [← Except.ok.inj hs, ← Except.ok.inj ht]
  refine clamp_mono (onSigned_mono ?_ (sub_units_le hfx hfy hxy))
  exact fun h => roundHalfEven_mono h _

end Score

namespace Policy

theorem exists_score {p : Policy} (hp : p.Accepted) {a : Analysis} (h : (p.penalty a).isFinite) :
    ∃ s, p.score a = .ok s :=
  ⟨_, Score.ofPenalty_of_finite (representable_penalty h) (penalty_units_nonneg hp h)⟩

theorem score_le {p q : Policy} (hp : p.Accepted) (hpq : p.AtMost q) {a b : Analysis}
    (hab : a.AtMost b) (ha : (p.penalty a).isFinite) (hb : (q.penalty b).isFinite) {s t : Score}
    (hs : p.score a = .ok s) (ht : q.score b = .ok t) : t ≤ s :=
  Score.ofPenalty_anti (representable_penalty ha) (representable_penalty hb)
    (penalty_units_nonneg hp ha) (penalty_units_le hp hpq hab ha hb) hs ht

end Policy

end CodeReview
