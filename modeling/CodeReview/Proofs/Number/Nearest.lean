import CodeReview.Proofs.Number.Within

/-!
A rounding is as near as the format comes to the number that is rounded. This alone decides on which
side of the middle between two neighbours of the format a rounding falls, and that a smaller number
is not rounded to a larger one.
-/

namespace CodeReview

theorem roundHalfEven_eq_or (num den : Nat) :
    roundHalfEven num den = num / den ∧ 2 * (num % den) ≤ den ∨
      roundHalfEven num den = num / den + 1 ∧ den ≤ 2 * (num % den) := by
  simp only [roundHalfEven]
  split
  · exact .inl ⟨rfl, by omega⟩
  · split
    · exact .inr ⟨rfl, by omega⟩
    · split
      · exact .inl ⟨rfl, by omega⟩
      · exact .inr ⟨rfl, by omega⟩

theorem roundHalfEven_near (num : Nat) {den : Nat} (hden : 0 < den) (k : Nat) :
    ((num : Int) - (roundHalfEven num den * den : Nat)).natAbs ≤
      ((num : Int) - (k * den : Nat)).natAbs := by
  have hdiv := Nat.div_add_mod' num den
  have hmod := Nat.mod_lt num hden
  have hk : k * den ≤ num / den * den ∨ num / den * den + den ≤ k * den := by
    rcases Nat.lt_or_ge (num / den) k with hlt | hle
    · right
      rw [← Nat.succ_mul]
      exact Nat.mul_le_mul_right den hlt
    · exact .inl (Nat.mul_le_mul_right den hle)
  rcases roundHalfEven_eq_or num den with ⟨hround, hhalf⟩ | ⟨hround, hhalf⟩
  · rw [hround]
    omega
  · rw [hround, Nat.succ_mul]
    omega

namespace Binary64

variable {u v num den num' den' k e : Nat}

/-- The magnitude `u` is one of the format, and none of the format is nearer to `num / den` least
units. -/
structure IsNearest (u num den : Nat) : Prop where
  onGrid : spacing u ∣ u
  near : ∀ v, spacing v ∣ v →
    ((num : Int) - (u * den : Nat)).natAbs ≤ ((num : Int) - (v * den : Nat)).natAbs

theorem lt_pow_of_not_dvd (hv : spacing v ∣ v) (h : ¬spacing u ∣ v) : v < 2 ^ u.log2 := by
  refine Nat.lt_of_not_le fun hle => h ?_
  have hspacing : spacing u = spacing (2 ^ u.log2) := by
    rw [spacing_eq, spacing_eq, Nat.log2_two_pow]
  rw [hspacing]
  exact Nat.dvd_trans (spacing_dvd hle) hv

theorem isNearest_roundUnits (num : Nat) (hden : 0 < den) :
    IsNearest (roundUnits num den) num den := by
  have hg := spacing_pos (num / den)
  have hmultiple : ∀ v, spacing (num / den) ∣ v →
      ((num : Int) - (roundUnits num den * den : Nat)).natAbs ≤
        ((num : Int) - (v * den : Nat)).natAbs := by
    rintro v ⟨k, rfl⟩
    have hnear := roundHalfEven_near num (Nat.mul_pos hden hg) k
    have hassoc : ∀ j, j * spacing (num / den) * den = j * (den * spacing (num / den)) := by
      intro j
      rw [Nat.mul_assoc, Nat.mul_comm den]
    rwa [Nat.mul_comm (spacing (num / den)), roundUnits, hassoc, hassoc]
  refine ⟨spacing_dvd_roundUnits num den hden, fun v hv => ?_⟩
  by_cases hgrid : spacing (num / den) ∣ v
  · exact hmultiple v hgrid
  · -- the power of two under the number is nearer than `v`, and the rounding no less near
    have hbelow := lt_pow_of_not_dvd hv hgrid
    have hq : num / den ≠ 0 := by
      intro h0
      rw [h0] at hgrid
      exact hgrid (Nat.one_dvd v)
    have hpower := hmultiple (2 ^ (num / den).log2) (Nat.pow_dvd_pow 2 (Nat.sub_le _ 52))
    have hnum : 2 ^ (num / den).log2 * den ≤ num :=
      (Nat.le_div_iff_mul_le hden).1 (Nat.log2_self_le hq)
    have hv' : v * den ≤ 2 ^ (num / den).log2 * den := Nat.mul_le_mul_right den (Nat.le_of_lt hbelow)
    omega

theorem IsNearest.middle_le (hu : IsNearest u num den) (hv : spacing v ∣ v) (h : v < u)
    (hden : 0 < den) : (u + v) * den ≤ 2 * num := by
  have hnear := hu.near v hv
  have hlt : v * den < u * den := Nat.mul_lt_mul_of_pos_right h hden
  rw [Nat.add_mul]
  omega

theorem IsNearest.le_middle (hu : IsNearest u num den) (hv : spacing v ∣ v) (h : u < v)
    (hden : 0 < den) : 2 * num ≤ (u + v) * den := by
  have hnear := hu.near v hv
  have hlt : u * den < v * den := Nat.mul_lt_mul_of_pos_right h hden
  rw [Nat.add_mul]
  omega

theorem IsNearest.mono (hu : IsNearest u num den) (hv : IsNearest v num' den') (hden : 0 < den)
    (hden' : 0 < den') (h : num * den' < num' * den) : u ≤ v := by
  refine Nat.le_of_not_lt fun hlt => ?_
  have hleft := Nat.mul_le_mul_right den' (hu.middle_le hv.onGrid hlt hden)
  have hright := Nat.mul_le_mul_right den (hv.le_middle hu.onGrid hlt hden')
  rw [Nat.mul_assoc 2] at hleft hright
  rw [Nat.mul_right_comm, Nat.add_comm v] at hright
  omega

theorem onGrid_mul_pow (hk : k < 2 ^ 53) (e : Nat) : spacing (k * 2 ^ e) ∣ k * 2 ^ e := by
  by_cases h0 : k = 0
  · rw [h0, Nat.zero_mul]
    exact Nat.dvd_zero _
  · have hne : k * 2 ^ e ≠ 0 := Nat.mul_ne_zero h0 (Nat.ne_of_gt (Nat.two_pow_pos e))
    have hlt : k * 2 ^ e < 2 ^ (53 + e) := by
      rw [Nat.pow_add]
      exact Nat.mul_lt_mul_of_pos_right hk (Nat.two_pow_pos e)
    have hlog := (Nat.log2_lt hne).2 hlt
    exact Nat.dvd_trans (Nat.pow_dvd_pow 2 (by omega)) (Nat.dvd_mul_left _ k)

theorem le_of_lt_next (hu : spacing u ∣ u) (hk : 2 ^ 52 ≤ k) (h : u < (k + 1) * 2 ^ e) :
    u ≤ k * 2 ^ e := by
  have hpos := Nat.two_pow_pos e
  rcases Nat.lt_or_ge u (2 ^ (52 + e)) with hsmall | hlarge
  · rw [Nat.pow_add] at hsmall
    exact Nat.le_trans (Nat.le_of_lt hsmall) (Nat.mul_le_mul_right _ hk)
  · have hne : u ≠ 0 := by
      have := Nat.two_pow_pos (52 + e)
      omega
    have hlog := (Nat.le_log2 hne).2 hlarge
    obtain ⟨j, rfl⟩ : 2 ^ e ∣ u := Nat.dvd_trans (Nat.pow_dvd_pow 2 (by omega)) hu
    rw [Nat.mul_comm] at h ⊢
    exact Nat.mul_le_mul_right _ (Nat.le_of_lt_succ (Nat.lt_of_mul_lt_mul_right h))

/-- Of two neighbours of the format a number is rounded to the lower one or below it if it lies
under the middle between them, and to the upper one or above it if it lies over the middle. -/
theorem IsNearest.lt_next_iff (hu : IsNearest u num den) (hden : 0 < den) (hk : 2 ^ 52 ≤ k)
    (hk' : k + 1 < 2 ^ 53) (hmiddle : 2 * num ≠ (2 * k + 1) * 2 ^ e * den) :
    u < (k + 1) * 2 ^ e ↔ 2 * num < (2 * k + 1) * 2 ^ e * den := by
  have hlower : spacing (k * 2 ^ e) ∣ k * 2 ^ e := onGrid_mul_pow (by omega) e
  have hupper : spacing ((k + 1) * 2 ^ e) ∣ (k + 1) * 2 ^ e := onGrid_mul_pow hk' e
  have hsum : (2 * k + 1) * 2 ^ e = k * 2 ^ e + (k + 1) * 2 ^ e := by
    rw [← Nat.add_mul]
    congr 1
    omega
  rw [hsum] at hmiddle ⊢
  constructor
  · intro h
    have hle := le_of_lt_next hu.onGrid hk h
    have hbelow := hu.le_middle hupper h hden
    have hsums : (u + (k + 1) * 2 ^ e) * den ≤ (k * 2 ^ e + (k + 1) * 2 ^ e) * den :=
      Nat.mul_le_mul_right den (Nat.add_le_add_right hle _)
    omega
  · intro h
    refine Nat.lt_of_not_le fun hle => ?_
    have hlt : k * 2 ^ e < (k + 1) * 2 ^ e :=
      Nat.mul_lt_mul_of_pos_right (Nat.lt_succ_self k) (Nat.two_pow_pos e)
    have habove := hu.middle_le hlower (Nat.lt_of_lt_of_le hlt hle) hden
    have hsums : (k * 2 ^ e + (k + 1) * 2 ^ e) * den ≤ (u + k * 2 ^ e) * den := by
      refine Nat.mul_le_mul_right den ?_
      rw [Nat.add_comm]
      exact Nat.add_le_add_right hle _
    omega

theorem lt_iff_units {x y : Binary64} (hx : x.isFinite) (hy : y.isFinite) :
    x.lt y = true ↔ x.units < y.units := by
  rw [lt, Bool.and_eq_true, Bool.not_eq_true', Bool.eq_false_iff, Ne, le_iff_units hx hy,
    le_iff_units hy hx]
  omega

theorem isFinite_ofRatio (hden : 0 < den) (h : num ≤ den) : (ofRatio false num den).isFinite := by
  have hle : roundUnits (num * unitsOfOne) den ≤ 2 ^ 1074 := by
    refine roundUnits_le_pow hden ?_
    rw [← unitsOfOne_eq, Nat.mul_comm num]
    exact Nat.mul_le_mul_left _ h
  exact isFinite_ofUnits.2 (Nat.lt_of_le_of_lt hle (pow_lt_unitsLimit (by decide)))

theorem ofRatio_lt_iff (hden : 0 < den) (h : num ≤ den) :
    (ofRatio false num den).lt (.finite false u) = true ↔
      roundUnits (num * unitsOfOne) den < u := by
  have hx := isFinite_ofRatio hden h
  rw [lt_iff_units hx rfl, ofRatio, units_ofUnits hx, units_finite, signed_false, signed_false,
    Int.ofNat_lt]

end Binary64

end CodeReview
