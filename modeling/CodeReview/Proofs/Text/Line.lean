import CodeReview.Text.Basic
import Mathlib.Data.List.Infix

/-!
The lines of a text. A stretch of the text stands on one of its lines exactly if there is no line
feed in it, and a line feed at the end of a text opens one more line, an empty one.
-/

namespace CodeReview

theorem notMem_of_mem_splitOn {α : Type} [BEq α] [LawfulBEq α] {x : α} {w t : List α}
    (h : w ∈ t.splitOn x) : x ∉ w := by
  induction t generalizing w with
  | nil =>
    rw [List.splitOn_nil, List.mem_singleton] at h
    simp [h]
  | cons c t ih =>
    rw [List.splitOn_cons_eq_if_modifyHead] at h
    split at h
    · rcases List.mem_cons.1 h with rfl | h
      · exact List.not_mem_nil
      · exact ih h
    · next hc =>
      -- the character goes to the first of the pieces that are there
      cases hs : t.splitOn x with
      | nil => exact absurd hs (List.splitOn_ne_nil x t)
      | cons v vs =>
        rw [hs] at h ih
        rcases List.mem_cons.1 h with rfl | h
        · have hv := ih List.mem_cons_self
          simp only [beq_iff_eq] at hc
          simpa [hv] using Ne.symm hc
        · exact ih (List.mem_cons_of_mem v h)

namespace Text

variable {l q t : List Char} {ls : List (List Char)}

theorem lines_feed (t : List Char) : lines ('\n' :: t) = [] :: lines t := by
  simp [lines, List.splitOn_cons_eq_if_modifyHead]

theorem lines_cons {c : Char} (hc : c ≠ '\n') (t : List Char) :
    lines (c :: t) = (lines t).modifyHead (c :: ·) := by
  simp [lines, List.splitOn_cons_eq_if_modifyHead, hc]

theorem lines_ended (t : List Char) : lines (t ++ ['\n']) = lines t ++ [[]] := by
  rw [lines, List.splitOn_append_cons_self, List.splitOn_nil, lines]

theorem exists_lines_eq_cons (t : List Char) : ∃ l ls, lines t = l :: ls :=
  List.exists_cons_of_ne_nil (List.splitOn_ne_nil '\n' t)

theorem prefix_line_iff (hq : '\n' ∉ q) (h : lines t = l :: ls) : q <+: l ↔ q <+: t := by
  induction t generalizing q l ls with
  | nil =>
    obtain ⟨rfl, rfl⟩ := List.cons.inj h
    rfl
  | cons c t ih =>
    cases q with
    | nil => exact iff_of_true List.nil_prefix List.nil_prefix
    | cons d q =>
      rw [List.mem_cons, not_or] at hq
      by_cases hc : c = '\n'
      · rw [hc, lines_feed] at h
        obtain ⟨rfl, rfl⟩ := List.cons.inj h
        rw [hc, List.cons_prefix_cons]
        exact iff_of_false (by simp) fun hd => hq.1 hd.1.symm
      · obtain ⟨l', ls', hlines⟩ := exists_lines_eq_cons t
        rw [lines_cons hc, hlines, List.modifyHead_cons] at h
        obtain ⟨rfl, rfl⟩ := List.cons.inj h
        rw [List.cons_prefix_cons, List.cons_prefix_cons, ih hq.2 hlines]

theorem infix_line_iff_of_notMem (hq : '\n' ∉ q) : (∃ l ∈ lines t, q <:+: l) ↔ q <:+: t := by
  induction t with
  | nil => simp [lines]
  | cons c t ih =>
    obtain ⟨l, ls, hlines⟩ := exists_lines_eq_cons t
    rw [hlines] at ih
    rw [List.infix_cons_iff, ← ih]
    by_cases hc : c = '\n'
    · have hhead := prefix_line_iff hq (lines_feed t)
      rw [hc, lines_feed, hlines, List.exists_mem_cons_iff, ← hhead, List.infix_nil,
        List.prefix_nil]
    · have hfirst : lines (c :: t) = (c :: l) :: ls := by
        rw [lines_cons hc, hlines, List.modifyHead_cons]
      have hhead := prefix_line_iff hq hfirst
      rw [hfirst, List.exists_mem_cons_iff, List.exists_mem_cons_iff, List.infix_cons_iff, hhead,
        or_assoc]

theorem infix_line_iff : (∃ l ∈ lines t, q <:+: l) ↔ '\n' ∉ q ∧ q <:+: t := by
  constructor
  · rintro ⟨l, hl, hq⟩
    have hfree : '\n' ∉ q := fun hmem => notMem_of_mem_splitOn hl (hq.subset hmem)
    exact ⟨hfree, (infix_line_iff_of_notMem hfree).1 ⟨l, hl, hq⟩⟩
  · rintro ⟨hfree, hq⟩
    exact (infix_line_iff_of_notMem hfree).2 hq

end Text

end CodeReview
