import CodeReview.Text.Case
import Mathlib.Data.List.Forall2

/-!
Letters in either case. A character is a form of a letter where its lower case is that letter;
beyond the ASCII range this holds of the Kelvin sign alone. The long s, which has a lower case of
its own, is a form of the letter s too.
-/

namespace CodeReview.Unicode

theorem mem_of_searchRun {table : Array Run} {n fuel lo hi : Nat} {r : Run}
    (h : searchRun table n fuel lo hi = some r) : r ∈ table := by
  induction fuel generalizing lo hi with
  | zero => cases h
  | succ fuel ih =>
    simp only [searchRun] at h
    split at h
    · split at h
      · cases h
      · next hrow =>
        split at h
        · exact ih h
        · split at h
          · exact ih h
          · split at h
            · cases h
              exact Array.mem_of_getElem? hrow
            · cases h
    · cases h

/-- No lower case of a character above the ASCII range lies in it, but that of the Kelvin sign. -/
theorem lowerTable_above_ascii {r : Run} (h : r ∈ lowerTable) :
    128 ≤ (r.first : Int) + r.shift ∨ r.first = 0x212A ∧ r.last = 0x212A := by
  have hall : ∀ r ∈ lowerTable.toList, 128 ≤ (r.first : Int) + r.shift ∨
      r.first = 0x212A ∧ r.last = 0x212A := by decide +kernel
  exact hall r (Array.mem_toList_iff.2 h)

end CodeReview.Unicode

namespace CodeReview.Text

open Unicode

variable {l c : Char}

/-- The character is the letter `l`, given in lower case, in either case: its lower case begins with
the letter, or it is the long s and the letter is an s. -/
def IsFormOf (l c : Char) : Prop :=
  (lowerChar c).head? = some l ∨ l = 's' ∧ c = 'ſ'

def SpellsCI (word t : List Char) : Prop :=
  List.Forall₂ IsFormOf word t

theorem toNat_ofNat_of_ne_zero {n : Nat} (h : (Char.ofNat n).toNat ≠ 0) :
    (Char.ofNat n).toNat = n := by
  by_cases hvalid : n.isValidChar
  · rw [Char.ofNat, dif_pos hvalid]
    rfl
  · rw [Char.ofNat, dif_neg hvalid] at h
    exact absurd rfl h

theorem toNat_of_isLower (h : l.isLower = true) : 97 ≤ l.toNat ∧ l.toNat ≤ 122 := by
  obtain ⟨hfrom, hto⟩ := Bool.and_eq_true_iff.1 h
  exact ⟨UInt32.le_iff_toNat_le.1 (of_decide_eq_true hfrom),
    UInt32.le_iff_toNat_le.1 (of_decide_eq_true hto)⟩

theorem toLower_of_not_ascii (hc : ¬c.toNat < 128) : c.toLower = c := by
  have hupper : ¬(c.val ≥ 'A'.val ∧ c.val ≤ 'Z'.val) := by
    rintro ⟨-, h⟩
    have hto : c.toNat ≤ 90 := UInt32.le_iff_toNat_le.1 h
    omega
  exact dif_neg hupper

theorem shifted_lowerTable_eq (hl : l.isLower = true) (hc : ¬c.toNat < 128)
    (h : shifted lowerTable c = l) : l = 'k' ∧ c = '\u212A' := by
  obtain ⟨hfrom, hto⟩ := toNat_of_isLower hl
  rw [shifted] at h
  split at h
  · next r hr =>
    have hholds := holds_of_searchRun hr
    simp only [Run.holds, Bool.and_eq_true, decide_eq_true_eq] at hholds
    obtain habove | ⟨hfirst, hlast⟩ := lowerTable_above_ascii (mem_of_searchRun hr)
    · have hcode := toNat_ofNat_of_ne_zero (n := ((c.toNat : Int) + r.shift).toNat)
        (by rw [h]; omega)
      rw [h] at hcode
      omega
    · have hkelvin : c = '\u212A' := by
        have hcode : c.toNat = 0x212A := by omega
        rw [← Char.ofNat_toNat c, hcode]
      have hk : shifted lowerTable '\u212A' = 'k' := by decide +kernel
      rw [hkelvin] at hr
      rw [shifted, hr] at hk
      rw [hkelvin] at h
      exact ⟨h.symm.trans hk, hkelvin⟩
  · rw [h] at hc
    omega

theorem head?_lowerChar_eq_some_iff (hl : l.isLower = true) (hi : l ≠ 'i') :
    (lowerChar c).head? = some l ↔ c.toLower = l ∨ l = 'k' ∧ c = '\u212A' := by
  by_cases hc : c.toNat < 128
  · rw [lowerChar, if_pos hc, List.head?_cons, Option.some.injEq]
    refine ⟨.inl, fun h => h.resolve_right ?_⟩
    rintro ⟨-, rfl⟩
    exact absurd hc (by decide)
  · constructor
    · intro h
      rw [lowerChar, if_neg hc] at h
      split at h
      · exact absurd (Option.some.inj h).symm hi
      · exact .inr (shifted_lowerTable_eq hl hc (Option.some.inj h))
    · rintro (rfl | ⟨rfl, rfl⟩)
      · rw [toLower_of_not_ascii hc] at hl
        have hto := (toNat_of_isLower hl).2
        omega
      · decide +kernel

/-- The forms of a letter that the rules name one by one are those that its lower case tells. The
letter i has two more, the dotted capital and the dotless small one, but no rule asks for it. -/
theorem isLetterCI_iff (hl : l.isLower = true) (hi : l ≠ 'i') :
    isLetterCI l c = true ↔ IsFormOf l c := by
  rw [IsFormOf, head?_lowerChar_eq_some_iff hl hi]
  simp only [isLetterCI, Bool.or_eq_true, Bool.and_eq_true, beq_iff_eq]
  exact or_right_comm

theorem afterCI?_eq_some_iff {w t r : List Char} (hw : ∀ l ∈ w, l.isLower = true ∧ l ≠ 'i') :
    afterCI? w t = some r ↔ ∃ u, SpellsCI w u ∧ t = u ++ r := by
  -- letter by letter of the word
  induction w generalizing t with
  | nil =>
    rw [afterCI?, Option.some.injEq]
    constructor
    · rintro rfl
      exact ⟨[], .nil, rfl⟩
    · rintro ⟨u, hu, rfl⟩
      cases hu
      rfl
  | cons l w ih =>
    rw [List.forall_mem_cons] at hw
    cases t with
    | nil =>
      rw [afterCI?]
      refine iff_of_false (Option.some_ne_none r).symm ?_
      rintro ⟨u, hu, hnil⟩
      rw [(List.append_eq_nil_iff.1 hnil.symm).1] at hu
      cases hu
    | cons c t =>
      rw [afterCI?]
      constructor
      · intro h
        split at h
        · next hc =>
          obtain ⟨u, hu, rfl⟩ := (ih hw.2).1 h
          exact ⟨c :: u, .cons ((isLetterCI_iff hw.1.1 hw.1.2).1 hc) hu, rfl⟩
        · cases h
      · rintro ⟨u, hu, ht⟩
        obtain ⟨d, v, hd, hv, rfl⟩ := List.forall₂_cons_left_iff.1 hu
        rw [List.cons_append, List.cons.injEq] at ht
        obtain ⟨rfl, rfl⟩ := ht
        rw [if_pos ((isLetterCI_iff hw.1.1 hw.1.2).2 hd)]
        exact (ih hw.2).2 ⟨v, hv, rfl⟩

end CodeReview.Text
