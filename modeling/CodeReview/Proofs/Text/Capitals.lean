import Mathlib
import CodeReview.Proofs.Text.Letters

/-!
Texts in capitals. No character has a small ASCII letter in its upper case: above the ASCII range
only the dotless i and the long s come into it, as capitals, and a ligature falls apart into
capitals. So a name with a small letter is the upper case of no text.
-/

namespace CodeReview.Unicode

/-- The upper case of a character above the ASCII range lies above it too, but for the dotless i
and the long s. -/
theorem upperTable_above_ascii {r : Run} (h : r ∈ upperTable) :
    128 ≤ (r.first : Int) + r.shift ∨
      r.first = r.last ∧ ((r.first : Int) + r.shift = 73 ∨ (r.first : Int) + r.shift = 83) := by
  have hall : ∀ r ∈ upperTable.toList, 128 ≤ (r.first : Int) + r.shift ∨
      r.first = r.last ∧ ((r.first : Int) + r.shift = 73 ∨ (r.first : Int) + r.shift = 83) := by
    decide +kernel
  exact hall r (Array.mem_toList_iff.2 h)

theorem upperSequences_not_small {e : Nat × List Nat} (h : e ∈ upperSequences) {n : Nat}
    (hn : n ∈ e.2) : n < 97 ∨ 122 < n := by
  have hall : ∀ e ∈ upperSequences.toList, ∀ n ∈ e.2, n < 97 ∨ 122 < n := by decide +kernel
  exact hall e (Array.mem_toList_iff.2 h) n hn

end CodeReview.Unicode

namespace CodeReview.Text

open Unicode

theorem isLower_eq_false {c : Char} (h : c.toNat < 97 ∨ 122 < c.toNat) : c.isLower = false := by
  rw [Bool.eq_false_iff]
  intro hlower
  obtain ⟨hfrom, hto⟩ := toNat_of_isLower hlower
  omega

theorem isLower_ofNat {n : Nat} (h : n < 97 ∨ 122 < n) : (Char.ofNat n).isLower = false := by
  rw [Bool.eq_false_iff]
  intro hlower
  obtain ⟨hfrom, hto⟩ := toNat_of_isLower hlower
  have hcode := toNat_ofNat_of_ne_zero (n := n) (by omega)
  omega

theorem isLower_shifted_upperTable {c : Char} (hc : ¬c.toNat < 128) :
    (shifted upperTable c).isLower = false := by
  rw [shifted]
  split
  · next r hr =>
    have hholds := holds_of_searchRun hr
    simp only [Run.holds, Bool.and_eq_true, decide_eq_true_eq] at hholds
    have hrow := upperTable_above_ascii (mem_of_searchRun hr)
    exact isLower_ofNat (by omega)
  · exact isLower_eq_false (by omega)

theorem isLower_of_mem_upperChar {c d : Char} (h : d ∈ upperChar c) : d.isLower = false := by
  rw [upperChar] at h
  split at h
  · rw [List.mem_singleton.1 h]
    exact c.isLower_toUpper_eq_false
  · next hc =>
    split at h
    · next hfind =>
      obtain ⟨n, hn, rfl⟩ := List.mem_map.1 h
      exact isLower_ofNat (upperSequences_not_small (Array.mem_of_find?_eq_some hfind) hn)
    · rw [List.mem_singleton.1 h]
      exact isLower_shifted_upperTable hc

theorem isLower_of_mem_toUpper {s : String} {d : Char} (h : d ∈ (toUpper s).toList) :
    d.isLower = false := by
  rw [toUpper, String.toList_ofList, upper, List.mem_flatMap] at h
  obtain ⟨c, -, hd⟩ := h
  exact isLower_of_mem_upperChar hd

theorem toUpper_ne_of_small {name : String} (h : ∃ d ∈ name.toList, d.isLower = true) (s : String) :
    toUpper s ≠ name := by
  rintro rfl
  obtain ⟨d, hd, hlower⟩ := h
  rw [isLower_of_mem_toUpper hd] at hlower
  cases hlower

end CodeReview.Text
