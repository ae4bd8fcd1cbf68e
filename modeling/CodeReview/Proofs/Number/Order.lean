import CodeReview.Proofs.Number.Rounding

/-!
The order of finite numbers, told by their values in least units. Each operation is exact
arithmetic on values followed by a rounding, which keeps the order; so every operation keeps it.
A result that is finite comes of finite parts only.
-/

namespace CodeReview.Binary64

/-- The value of a finite number, in least units. -/
def units : Binary64 → Int
  | .finite s u => signed s u
  | _ => 0

@[simp] theorem units_finite (s : Bool) (u : Nat) : (finite s u).units = signed s u := rfl

@[simp] theorem isFinite_finite (s : Bool) (u : Nat) : (finite s u).isFinite = true := rfl

theorem units_of_not_finite {x : Binary64} (h : x.isFinite = false) : x.units = 0 := by
  cases x with
  | nan => rfl
  | infinite s => rfl
  | finite s u => simp at h

theorem exists_of_isFinite {x : Binary64} (h : x.isFinite) : ∃ s u, x = .finite s u := by
  cases x with
  | nan => simp [isFinite] at h
  | infinite s => simp [isFinite] at h
  | finite s u => exact ⟨s, u, rfl⟩

theorem signed_false (u : Nat) : signed false u = u := rfl

theorem unitsOfOne_pos : 0 < unitsOfOne := by decide +kernel

theorem unitsLimit_pos : 0 < unitsLimit := by decide +kernel

def onSigned (f : Nat → Nat) (z : Int) : Int :=
  signed (z < 0) (f z.natAbs)

theorem onSigned_of_nonneg (f : Nat → Nat) {z : Int} (h : 0 ≤ z) :
    onSigned f z = f z.natAbs := by
  have hz : ¬ z < 0 := by omega
  simp [onSigned, signed, hz]

theorem onSigned_of_neg (f : Nat → Nat) {z : Int} (h : z < 0) :
    onSigned f z = -(f z.natAbs : Int) := by
  simp [onSigned, signed, h]

theorem natAbs_onSigned (f : Nat → Nat) (z : Int) : (onSigned f z).natAbs = f z.natAbs := by
  by_cases hz : z < 0
  · rw [onSigned_of_neg f hz, Int.natAbs_neg, Int.natAbs_natCast]
  · rw [onSigned_of_nonneg f (by omega), Int.natAbs_natCast]

theorem onSigned_mono {f : Nat → Nat} (hf : ∀ {m n : Nat}, m ≤ n → f m ≤ f n) {z w : Int}
    (h : z ≤ w) : onSigned f z ≤ onSigned f w := by
  by_cases hz : z < 0
  · rw [onSigned_of_neg f hz]
    by_cases hw : w < 0
    · rw [onSigned_of_neg f hw]
      have := hf (show w.natAbs ≤ z.natAbs by omega)
      omega
    · rw [onSigned_of_nonneg f (by omega)]
      omega
  · rw [onSigned_of_nonneg f (by omega), onSigned_of_nonneg f (by omega)]
    have := hf (show z.natAbs ≤ w.natAbs by omega)
    omega

theorem signed_eq_onSigned {f : Nat → Nat} (h0 : f 0 = 0) (s : Bool) (u : Nat) :
    signed s (f u) = onSigned f (signed s u) := by
  cases s with
  | false => rw [onSigned_of_nonneg f (by simp [signed])]; simp [signed]
  | true =>
    by_cases hu : u = 0
    · subst hu
      simp [signed, onSigned, h0]
    · rw [onSigned_of_neg f (by simp [signed]; omega)]
      simp [signed]

theorem roundUnits_zero (den : Nat) : roundUnits 0 den = 0 := by
  simp [roundUnits, roundHalfEven]

theorem le_iff_units {x y : Binary64} (hx : x.isFinite) (hy : y.isFinite) :
    x.le y = true ↔ x.units ≤ y.units := by
  cases x <;> cases y <;> simp_all [isFinite, le, units]

theorem le_self {x y : Binary64} (h : x.le y = true) : y.le y = true := by
  cases y with
  | nan => cases x <;> simp [le] at h
  | infinite s => cases s <;> rfl
  | finite s u => exact decide_eq_true (Int.le_refl _)

theorem le_trans {x y z : Binary64} (hxy : x.le y = true) (hyz : y.le z = true) :
    x.le z = true := by
  rcases x with _ | (_ | _) | _ <;> rcases y with _ | (_ | _) | _ <;>
    rcases z with _ | (_ | _) | _ <;> simp_all only [le, decide_eq_true_eq, reduceCtorEq]
  exact Int.le_trans hxy hyz

structure Representable (x : Binary64) : Prop where
  finite : x.isFinite = true
  onGrid : spacing x.units.natAbs ∣ x.units.natAbs
  belowLimit : x.units.natAbs < unitsLimit

theorem natAbs_signed (s : Bool) (u : Nat) : (signed s u).natAbs = u := by
  cases s <;> simp [signed]

theorem units_ofUnits {s : Bool} {num den : Nat} (h : (ofUnits s num den).isFinite) :
    (ofUnits s num den).units = signed s (roundUnits num den) := by
  simp only [ofUnits] at h ⊢
  split
  · rfl
  · next hlt => simp [hlt, isFinite] at h

theorem isFinite_ofUnits {s : Bool} {num den : Nat} :
    (ofUnits s num den).isFinite = true ↔ roundUnits num den < unitsLimit := by
  simp only [ofUnits]
  split <;> simp_all [isFinite]

theorem units_add {x y : Binary64} (h : (x + y).isFinite) :
    x.isFinite ∧ y.isFinite ∧ (x + y).units = onSigned (roundUnits · 1) (x.units + y.units) := by
  change (add x y).isFinite at h
  change _ ∧ _ ∧ (add x y).units = _
  cases x with
  | nan => simp [add, isFinite] at h
  | infinite s =>
    cases y with
    | nan => simp [add, isFinite] at h
    | infinite t => simp only [add] at h; split at h <;> simp [isFinite] at h
    | finite t v => simp [add, isFinite] at h
  | finite s u =>
    cases y with
    | nan => simp [add, isFinite] at h
    | infinite t => simp [add, isFinite] at h
    | finite t v =>
      refine ⟨rfl, rfl, ?_⟩
      simp only [add, units_finite] at h ⊢
      split
      · next hz => rw [hz]; simp [signed, onSigned, roundUnits_zero]
      · next hz =>
        rw [if_neg hz] at h
        exact units_ofUnits h

theorem isFinite_add_iff {x y : Binary64} (hx : x.isFinite) (hy : y.isFinite) :
    (x + y).isFinite = true ↔ roundUnits (x.units + y.units).natAbs 1 < unitsLimit := by
  obtain ⟨s, u, rfl⟩ := exists_of_isFinite hx
  obtain ⟨t, v, rfl⟩ := exists_of_isFinite hy
  change (add _ _).isFinite = true ↔ _
  simp only [add, units_finite]
  split
  · next hz =>
    rw [hz, Int.natAbs_zero, roundUnits_zero]
    exact ⟨fun _ => unitsLimit_pos, fun _ => rfl⟩
  · exact isFinite_ofUnits

theorem representable_zero : (0 : Binary64).Representable := by
  have h0 : (0 : Binary64) = .finite false 0 := by decide +kernel
  rw [h0]
  exact ⟨rfl, Nat.dvd_zero _, unitsLimit_pos⟩

theorem representable_add {x y : Binary64} (h : (x + y).isFinite) : (x + y).Representable := by
  obtain ⟨hx, hy, hv⟩ := units_add h
  refine ⟨h, ?_, ?_⟩
  · rw [hv, natAbs_onSigned]
    exact spacing_dvd_roundUnits _ _ Nat.one_pos
  · rw [hv, natAbs_onSigned]
    exact (isFinite_add_iff hx hy).1 h

theorem Representable.onSigned_roundUnits {x : Binary64} (h : x.Representable) :
    onSigned (roundUnits · 1) x.units = x.units := by
  by_cases hneg : x.units < 0
  · rw [onSigned_of_neg _ hneg, roundUnits_of_dvd h.onGrid]
    omega
  · rw [onSigned_of_nonneg _ (Int.not_lt.1 hneg), roundUnits_of_dvd h.onGrid]
    omega

theorem le_add_units {x c : Binary64} (hx : x.Representable) (h : (x + c).isFinite)
    (hc : 0 ≤ c.units) : x.units ≤ (x + c).units :=
  calc x.units = onSigned (roundUnits · 1) x.units := hx.onSigned_roundUnits.symm
    _ ≤ onSigned (roundUnits · 1) (x.units + c.units) :=
      onSigned_mono (roundUnits_mono Nat.one_pos) (by omega)
    _ = (x + c).units := (units_add h).2.2.symm

theorem add_units_le {x y x' y' : Binary64} (h : (x + y).isFinite) (h' : (x' + y').isFinite)
    (hx : x.units ≤ x'.units) (hy : y.units ≤ y'.units) : (x + y).units ≤ (x' + y').units := by
  rw [(units_add h).2.2, (units_add h').2.2]
  exact onSigned_mono (roundUnits_mono Nat.one_pos) (by omega)

theorem add_units_nonneg {x y : Binary64} (h : (x + y).isFinite) (hx : 0 ≤ x.units)
    (hy : 0 ≤ y.units) : 0 ≤ (x + y).units := by
  rw [(units_add h).2.2, onSigned_of_nonneg _ (by omega)]
  exact Int.natCast_nonneg _

theorem add_of_le_pow {x y : Binary64} {k : Nat} (hx : x.isFinite) (hy : y.isFinite)
    (hk : 2 ^ k < unitsLimit) (h : (x.units + y.units).natAbs ≤ 2 ^ k) :
    (x + y).isFinite = true ∧ (x + y).units.natAbs ≤ 2 ^ k := by
  have hround : roundUnits (x.units + y.units).natAbs 1 ≤ 2 ^ k :=
    roundUnits_le_pow Nat.one_pos (by rwa [Nat.mul_one])
  have hfin : (x + y).isFinite = true :=
    (isFinite_add_iff hx hy).2 (Nat.lt_of_le_of_lt hround hk)
  refine ⟨hfin, ?_⟩
  rw [(units_add hfin).2.2, natAbs_onSigned]
  exact hround

theorem units_neg (x : Binary64) : x.neg.units = -x.units := by
  cases x with
  | nan => rfl
  | infinite s => rfl
  | finite s u => cases s <;> simp [neg, units, signed]

theorem isFinite_neg (x : Binary64) : x.neg.isFinite = x.isFinite := by
  cases x <;> rfl

theorem units_sub {x y : Binary64} (h : (x - y).isFinite) :
    x.isFinite ∧ y.isFinite ∧ (x - y).units = onSigned (roundUnits · 1) (x.units - y.units) := by
  obtain ⟨hx, hy, hv⟩ := units_add (x := x) (y := y.neg) h
  rw [isFinite_neg] at hy
  rw [units_neg] at hv
  exact ⟨hx, hy, hv⟩

theorem sub_units_le {x y y' : Binary64} (h : (x - y).isFinite) (h' : (x - y').isFinite)
    (hy : y.units ≤ y'.units) : (x - y').units ≤ (x - y).units := by
  rw [(units_sub h).2.2, (units_sub h').2.2]
  exact onSigned_mono (roundUnits_mono Nat.one_pos) (by omega)

theorem isFinite_sub {x y : Binary64} (hx : x.Representable) (hy : y.Representable)
    (hx0 : 0 ≤ x.units) (hy0 : 0 ≤ y.units) : (x - y).isFinite := by
  have hyneg : y.neg.isFinite := by rw [isFinite_neg]; exact hy.finite
  refine (isFinite_add_iff hx.finite hyneg).2 ?_
  rw [units_neg]
  rcases Nat.le_total x.units.natAbs y.units.natAbs with hxy | hyx
  · have hle := roundUnits_mono Nat.one_pos
      (show (x.units + -y.units).natAbs ≤ y.units.natAbs by omega)
    rw [roundUnits_of_dvd hy.onGrid] at hle
    exact Nat.lt_of_le_of_lt hle hy.belowLimit
  · have hle := roundUnits_mono Nat.one_pos
      (show (x.units + -y.units).natAbs ≤ x.units.natAbs by omega)
    rw [roundUnits_of_dvd hx.onGrid] at hle
    exact Nat.lt_of_le_of_lt hle hx.belowLimit

theorem units_mul {x y : Binary64} (h : (x * y).isFinite) :
    x.isFinite ∧ y.isFinite ∧
      (x * y).units = onSigned (roundUnits · unitsOfOne) (x.units * y.units) := by
  change (mul x y).isFinite at h
  change _ ∧ _ ∧ (mul x y).units = _
  cases x with
  | nan => simp [mul, isFinite] at h
  | infinite s =>
    cases y with
    | nan => simp [mul, isFinite] at h
    | infinite t => simp [mul, isFinite] at h
    | finite t v => simp only [mul] at h; split at h <;> simp [isFinite] at h
  | finite s u =>
    cases y with
    | nan => simp [mul, isFinite] at h
    | infinite t => simp only [mul] at h; split at h <;> simp [isFinite] at h
    | finite t v =>
      refine ⟨rfl, rfl, ?_⟩
      have hprod : signed s u * signed t v = signed (s != t) (u * v) := by
        cases s <;> cases t <;> simp [signed, Int.neg_mul, Int.mul_neg]
      simp only [mul, units_finite] at h ⊢
      rw [units_ofUnits h, hprod]
      exact signed_eq_onSigned (f := (roundUnits · unitsOfOne)) (roundUnits_zero _) _ _

theorem isFinite_mul_iff {x y : Binary64} (hx : x.isFinite) (hy : y.isFinite) :
    (x * y).isFinite = true ↔ roundUnits (x.units * y.units).natAbs unitsOfOne < unitsLimit := by
  obtain ⟨s, u, rfl⟩ := exists_of_isFinite hx
  obtain ⟨t, v, rfl⟩ := exists_of_isFinite hy
  change (mul _ _).isFinite = true ↔ _
  simp only [mul, units_finite, Int.natAbs_mul, natAbs_signed]
  exact isFinite_ofUnits

theorem mul_of_le_pow {x y : Binary64} {k : Nat} (hx : x.isFinite) (hy : y.isFinite)
    (hk : 2 ^ k < unitsLimit) (h : (x.units * y.units).natAbs ≤ 2 ^ k * unitsOfOne) :
    (x * y).isFinite = true ∧ (x * y).units.natAbs ≤ 2 ^ k := by
  have hround : roundUnits (x.units * y.units).natAbs unitsOfOne ≤ 2 ^ k :=
    roundUnits_le_pow unitsOfOne_pos h
  have hfin : (x * y).isFinite = true :=
    (isFinite_mul_iff hx hy).2 (Nat.lt_of_le_of_lt hround hk)
  refine ⟨hfin, ?_⟩
  rw [(units_mul hfin).2.2, natAbs_onSigned]
  exact hround

theorem mul_units_le {x y x' y' : Binary64} (h : (x * y).isFinite) (h' : (x' * y').isFinite)
    (hx : x.units ≤ x'.units) (hy : y.units ≤ y'.units) (hx0 : 0 ≤ x'.units) (hy0 : 0 ≤ y.units) :
    (x * y).units ≤ (x' * y').units := by
  rw [(units_mul h).2.2, (units_mul h').2.2]
  exact onSigned_mono (roundUnits_mono unitsOfOne_pos) (Int.mul_le_mul hx hy hy0 hx0)

theorem mul_units_nonneg {x y : Binary64} (h : (x * y).isFinite) (hx : 0 ≤ x.units)
    (hy : 0 ≤ y.units) : 0 ≤ (x * y).units := by
  rw [(units_mul h).2.2, onSigned_of_nonneg _ (Int.mul_nonneg hx hy)]
  exact Int.natCast_nonneg _

theorem units_ofNat {n : Nat} (h : (ofNat n).isFinite) :
    (ofNat n).units = roundUnits (n * unitsOfOne) 1 := by
  rw [ofNat, ofRatio] at h ⊢
  rw [units_ofUnits h, signed_false]

theorem ofNat_units_le {m n : Nat} (hm : (ofNat m).isFinite) (hn : (ofNat n).isFinite)
    (h : m ≤ n) : (ofNat m).units ≤ (ofNat n).units := by
  rw [units_ofNat hm, units_ofNat hn]
  exact Int.ofNat_le.2 (roundUnits_mono Nat.one_pos (Nat.mul_le_mul_right unitsOfOne h))

theorem ofNat_units_nonneg (n : Nat) : 0 ≤ (ofNat n).units := by
  cases h : (ofNat n).isFinite with
  | true => exact le_of_le_of_eq (Int.natCast_nonneg _) (units_ofNat h).symm
  | false => exact Int.le_of_eq (units_of_not_finite h).symm

theorem round_eq {x : Binary64} (h : x.isFinite) :
    x.round = .ok (onSigned (roundHalfEven · unitsOfOne) x.units) := by
  obtain ⟨s, u, rfl⟩ := exists_of_isFinite h
  have h0 : roundHalfEven 0 unitsOfOne = 0 := by simp [roundHalfEven]
  simp only [round, units_finite]
  exact congrArg Except.ok (signed_eq_onSigned (f := (roundHalfEven · unitsOfOne)) h0 s u)

end CodeReview.Binary64
