import CodeReview.Number.Binary64
import Mathlib.Algebra.Group.Nat.Defs

/-!
Rounding keeps order: a larger magnitude never rounds to a smaller one, whatever the spacing of
the format around the two. What a rounding gives is a magnitude of the format, which is its own
rounding.
-/

namespace CodeReview

theorem le_roundHalfEven (num den : Nat) : num / den ≤ roundHalfEven num den := by
  simp only [roundHalfEven]
  split
  · exact Nat.le_refl _
  · split
    · omega
    · split <;> omega

theorem roundHalfEven_le (num den : Nat) : roundHalfEven num den ≤ num / den + 1 := by
  simp only [roundHalfEven]
  split
  · omega
  · split
    · exact Nat.le_refl _
    · split <;> omega

theorem roundHalfEven_mono {n m : Nat} (h : n ≤ m) (den : Nat) :
    roundHalfEven n den ≤ roundHalfEven m den := by
  have hq : n / den ≤ m / den := Nat.div_le_div_right h
  rcases Nat.lt_or_eq_of_le hq with hlt | heq
  · have hn := roundHalfEven_le n den
    have hm := le_roundHalfEven m den
    omega
  · -- with equal quotients the remainders decide
    have hn := Nat.div_add_mod n den
    have hm := Nat.div_add_mod m den
    have hr : n % den ≤ m % den := by rw [heq] at hn; omega
    simp only [roundHalfEven, heq]
    repeat' split
    all_goals omega

namespace Binary64

theorem spacing_eq (q : Nat) : spacing q = 2 ^ (q.log2 - 52) := Nat.pow_eq

theorem unitsOfOne_eq : unitsOfOne = 2 ^ 1074 := Nat.pow_eq

theorem unitsLimit_eq : unitsLimit = 2 ^ 2098 := Nat.pow_eq

theorem spacing_pos (q : Nat) : 0 < spacing q := Nat.two_pow_pos _

theorem spacing_dvd {q r : Nat} (h : q ≤ r) : spacing q ∣ spacing r := by
  have hl : q.log2 ≤ r.log2 := by
    by_cases hq : q = 0
    · subst hq
      simp
    · have hr : r ≠ 0 := by omega
      exact (Nat.le_log2 hr).2 (Nat.le_trans (Nat.log2_self_le hq) h)
  exact Nat.pow_dvd_pow 2 (by omega)

theorem spacing_mul_pow_of_lt {q k : Nat} (h : q < 2 ^ k) : spacing q ∣ 2 ^ k := by
  by_cases hq : q = 0
  · subst hq
    simp [spacing_eq]
  · have hl : q.log2 < k := (Nat.log2_lt hq).2 h
    exact Nat.pow_dvd_pow 2 (by omega)

theorem roundUnits_le {num den b : Nat} (hden : 0 < den) (hb : spacing (num / den) ∣ b)
    (h : num ≤ b * den) : roundUnits num den ≤ b := by
  obtain ⟨k, rfl⟩ := hb
  have hg := spacing_pos (num / den)
  simp only [roundUnits]
  generalize spacing (num / den) = g at *
  have hk : num ≤ k * (den * g) := by
    have : g * k * den = k * (den * g) := by ac_rfl
    omega
  have hr := roundHalfEven_mono hk (den * g)
  rw [roundHalfEven_mul _ _ (Nat.mul_pos hden hg)] at hr
  calc roundHalfEven num (den * g) * g ≤ k * g := Nat.mul_le_mul_right g hr
    _ = g * k := Nat.mul_comm k g

theorem le_roundUnits {num den b : Nat} (hden : 0 < den) (hb : spacing (num / den) ∣ b)
    (h : b * den ≤ num) : b ≤ roundUnits num den := by
  obtain ⟨k, rfl⟩ := hb
  have hg := spacing_pos (num / den)
  simp only [roundUnits]
  generalize spacing (num / den) = g at *
  have hk : k * (den * g) ≤ num := by
    have : g * k * den = k * (den * g) := by ac_rfl
    omega
  have hr := roundHalfEven_mono hk (den * g)
  rw [roundHalfEven_mul _ _ (Nat.mul_pos hden hg)] at hr
  calc g * k = k * g := Nat.mul_comm g k
    _ ≤ roundHalfEven num (den * g) * g := Nat.mul_le_mul_right g hr

theorem roundUnits_le_pow {num den k : Nat} (hden : 0 < den) (h : num ≤ 2 ^ k * den) :
    roundUnits num den ≤ 2 ^ k := by
  refine roundUnits_le hden ?_ h
  have hq : num / den ≤ 2 ^ k := Nat.div_le_of_le_mul (by rwa [Nat.mul_comm] at h)
  rcases Nat.lt_or_eq_of_le hq with hlt | heq
  · exact spacing_mul_pow_of_lt hlt
  · rw [heq, spacing_eq, Nat.log2_two_pow]
    exact Nat.pow_dvd_pow 2 (Nat.sub_le k 52)

theorem roundUnits_mono {n m den : Nat} (hden : 0 < den) (h : n ≤ m) :
    roundUnits n den ≤ roundUnits m den := by
  have hq : n / den ≤ m / den := Nat.div_le_div_right h
  by_cases hs : spacing (n / den) = spacing (m / den)
  · simp only [roundUnits, hs]
    exact Nat.mul_le_mul_right _ (roundHalfEven_mono h _)
  · -- a power of two stands between the two, and both grids have it
    have hm : m / den ≠ 0 := by
      intro h0
      rw [h0, Nat.le_zero] at hq
      exact hs (by rw [h0, hq])
    have hlog : (n / den).log2 < (m / den).log2 ∧ 52 ≤ (m / den).log2 := by
      have hd := Nat.le_of_dvd (spacing_pos _) (spacing_dvd hq)
      have hlt : spacing (n / den) < spacing (m / den) := by omega
      have := (Nat.pow_lt_pow_iff_right (by decide : 1 < 2)).1 hlt
      omega
    have hpow : n / den < 2 ^ (m / den).log2 := by
      by_cases hn : n / den = 0
      · rw [hn]
        exact Nat.two_pow_pos _
      · exact (Nat.log2_lt hn).1 hlog.1
    have hnum : n ≤ 2 ^ (m / den).log2 * den :=
      Nat.le_of_lt ((Nat.div_lt_iff_lt_mul hden).1 hpow)
    have hnum' : 2 ^ (m / den).log2 * den ≤ m :=
      (Nat.le_div_iff_mul_le hden).1 (Nat.log2_self_le hm)
    calc roundUnits n den ≤ 2 ^ (m / den).log2 :=
          roundUnits_le_pow hden hnum
      _ ≤ roundUnits m den := by
          refine le_roundUnits hden ?_ hnum'
          exact Nat.pow_dvd_pow 2 (by omega)

theorem roundUnits_of_dvd {u : Nat} (h : spacing u ∣ u) : roundUnits u 1 = u := by
  have h1 : spacing (u / 1) ∣ u := by rwa [Nat.div_one]
  have hle : roundUnits u 1 ≤ u := roundUnits_le Nat.one_pos h1 (by omega)
  have hge : u ≤ roundUnits u 1 := le_roundUnits Nat.one_pos h1 (by omega)
  omega

theorem spacing_dvd_roundUnits (num den : Nat) (hden : 0 < den) :
    spacing (roundUnits num den) ∣ roundUnits num den := by
  have hlt : num / den < 2 ^ ((num / den).log2 + 1) := Nat.lt_log2_self
  have hle : roundUnits num den ≤ 2 ^ ((num / den).log2 + 1) :=
    roundUnits_le_pow hden (Nat.le_of_lt ((Nat.div_lt_iff_lt_mul hden).1 hlt))
  rcases Nat.lt_or_eq_of_le hle with h | h
  · have hg : spacing (roundUnits num den) ∣ spacing (num / den) := by
      by_cases h0 : roundUnits num den = 0
      · rw [h0]
        exact spacing_dvd (Nat.zero_le _)
      · have := (Nat.log2_lt h0).2 h
        exact Nat.pow_dvd_pow 2 (by omega)
    exact Nat.dvd_trans hg (Nat.dvd_mul_left _ _)
  · rw [h, spacing_eq, Nat.log2_two_pow]
    exact Nat.pow_dvd_pow 2 (by omega)

end Binary64

end CodeReview
