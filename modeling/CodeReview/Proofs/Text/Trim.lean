import CodeReview.Text.Basic
import Mathlib.Data.List.DropRight

/-!
Trimming. What is left of a text is empty exactly where the text is blank, and is not trimmed any
further.
-/

namespace CodeReview.Text

theorem trimEnd_eq_nil_iff {t : List Char} : trimEnd t = [] ↔ t.all isBlank = true := by
  rw [trimEnd, List.reverse_eq_nil_iff, List.dropWhile_eq_nil_iff, List.all_eq_true]
  simp only [List.mem_reverse]

theorem all_isBlank_trimStart (t : List Char) :
    (trimStart t).all isBlank = t.all isBlank := by
  induction t with
  | nil => rfl
  | cons c t ih =>
    by_cases hc : isBlank c = true
    · rw [trimStart, List.dropWhile_cons_of_pos hc, List.all_cons, hc, Bool.true_and]
      exact ih
    · rw [trimStart, List.dropWhile_cons_of_neg hc]

theorem trim_eq_nil_iff {t : List Char} : trim t = [] ↔ t.all isBlank = true := by
  rw [trim, trimEnd_eq_nil_iff, all_isBlank_trimStart]

theorem strip_eq_empty_iff {s : String} : strip s = "" ↔ isBlankText s = true := by
  rw [strip, String.ofList_eq_empty_iff, trim_eq_nil_iff, isBlankText]

theorem isEmpty_strip (s : String) : (strip s).isEmpty = isBlankText s := by
  rw [Bool.eq_iff_iff, String.isEmpty_iff, strip_eq_empty_iff]

theorem trimEnd_prefix (t : List Char) : trimEnd t <+: t := by
  rw [← List.reverse_suffix, trimEnd, List.reverse_reverse]
  exact List.dropWhile_suffix _

theorem trimEnd_trimEnd (t : List Char) : trimEnd (trimEnd t) = trimEnd t := by
  rw [trimEnd, trimEnd, List.reverse_reverse, List.dropWhile_idempotent]

theorem trimStart_trimEnd_trimStart (t : List Char) :
    trimStart (trimEnd (trimStart t)) = trimEnd (trimStart t) := by
  obtain ⟨rest, hrest⟩ := trimEnd_prefix (trimStart t)
  cases h : trimEnd (trimStart t) with
  | nil => rfl
  | cons c r =>
    rw [h, List.cons_append] at hrest
    have hc := List.head?_dropWhile_not isBlank t
    rw [← trimStart, ← hrest] at hc
    rw [trimStart, List.dropWhile_cons_of_neg (by simpa using hc)]

theorem trim_trim (t : List Char) : trim (trim t) = trim t := by
  rw [trim, trim, trimStart_trimEnd_trimStart, trimEnd_trimEnd]

theorem strip_strip (s : String) : strip (strip s) = strip s := by
  rw [strip, strip, String.toList_ofList, trim_trim]

end CodeReview.Text
