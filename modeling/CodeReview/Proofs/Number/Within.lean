import CodeReview.Proofs.Number.Order

/-!
Numbers within a power of two. Sums and products of numbers that are not negative stay within
powers that the format has room for, and so stay finite.
-/

namespace CodeReview.Binary64

structure Within (k : Nat) (x : Binary64) : Prop where
  finite : x.isFinite = true
  nonneg : 0 ≤ x.units
  le_pow : x.units.natAbs ≤ 2 ^ k

theorem pow_lt_unitsLimit {k : Nat} (h : k < 2098) : 2 ^ k < unitsLimit :=
  lt_of_lt_of_eq (Nat.pow_lt_pow_right Nat.one_lt_two h) unitsLimit_eq.symm

theorem Within.mono {k l : Nat} {x : Binary64} (h : Within k x) (hkl : k ≤ l) : Within l x :=
  ⟨h.finite, h.nonneg, Nat.le_trans h.le_pow (Nat.pow_le_pow_right (by decide) hkl)⟩

theorem within_zero (k : Nat) : Within k 0 := by
  have h0 : (0 : Binary64) = .finite false 0 := by decide +kernel
  rw [h0]
  exact ⟨rfl, by simp [signed], by simp [signed]⟩

theorem Within.add {k : Nat} {x y : Binary64} (hx : Within k x) (hy : Within k y)
    (hk : k + 1 < 2098) : Within (k + 1) (x + y) := by
  have hx0 := hx.nonneg
  have hy0 := hy.nonneg
  have hsum : (x.units + y.units).natAbs ≤ 2 ^ (k + 1) := by
    have hxk := hx.le_pow
    have hyk := hy.le_pow
    have hpow : 2 ^ (k + 1) = 2 ^ k + 2 ^ k := by rw [Nat.pow_succ]; omega
    omega
  obtain ⟨hfin, hle⟩ := add_of_le_pow hx.finite hy.finite (pow_lt_unitsLimit hk) hsum
  exact ⟨hfin, add_units_nonneg hfin hx0 hy0, hle⟩

theorem Within.foldl {k : Nat} {acc : Binary64} {xs : List Binary64} (hacc : Within k acc)
    (hxs : ∀ x ∈ xs, Within k x) (hk : k + xs.length < 2098) :
    Within (k + xs.length) (xs.foldl (· + ·) acc) := by
  induction xs generalizing k acc with
  | nil => exact hacc
  | cons x xs ih =>
    simp only [List.length_cons] at hk ⊢
    have hsum : Within (k + 1) (acc + x) := hacc.add (hxs x List.mem_cons_self) (by omega)
    have hrest : ∀ y ∈ xs, Within (k + 1) y := fun y hy =>
      (hxs y (List.mem_cons_of_mem _ hy)).mono (Nat.le_succ k)
    have h := ih hsum hrest (by omega)
    rwa [Nat.add_assoc, Nat.add_comm 1] at h

theorem within_ofNat {n m : Nat} (h : n ≤ 2 ^ m) (hm : m + 1074 < 2098) :
    Within (m + 1074) (ofNat n) := by
  have hn : n * unitsOfOne ≤ 2 ^ (m + 1074) * 1 :=
    calc n * unitsOfOne ≤ 2 ^ m * unitsOfOne := Nat.mul_le_mul_right unitsOfOne h
      _ = 2 ^ (m + 1074) * 1 := by rw [unitsOfOne_eq, ← Nat.pow_add, Nat.mul_one]
  have hround := roundUnits_le_pow Nat.one_pos hn
  have hfin : (ofNat n).isFinite = true := by
    rw [ofNat, ofRatio]
    exact isFinite_ofUnits.2 (Nat.lt_of_le_of_lt hround (pow_lt_unitsLimit hm))
  refine ⟨hfin, ofNat_units_nonneg n, ?_⟩
  rw [units_ofNat hfin, Int.natAbs_natCast]
  exact hround

theorem Within.mul_ofNat {k m n : Nat} {w : Binary64} (hw : Within k w) (h : n ≤ 2 ^ m)
    (hm : m + 1074 < 2098) (hk : k + m < 2098) : Within (k + m) (w * ofNat n) := by
  have hn := within_ofNat h hm
  have hprod : (w.units * (ofNat n).units).natAbs ≤ 2 ^ (k + m) * unitsOfOne := by
    rw [Int.natAbs_mul]
    calc w.units.natAbs * (ofNat n).units.natAbs ≤ 2 ^ k * 2 ^ (m + 1074) :=
          Nat.mul_le_mul hw.le_pow hn.le_pow
      _ = 2 ^ (k + m) * unitsOfOne := by
          rw [unitsOfOne_eq, ← Nat.pow_add, ← Nat.pow_add, Nat.add_assoc]
  obtain ⟨hfin, hle⟩ := mul_of_le_pow hw.finite hn.finite (pow_lt_unitsLimit hk) hprod
  exact ⟨hfin, mul_units_nonneg hfin hw.nonneg hn.nonneg, hle⟩

end CodeReview.Binary64
