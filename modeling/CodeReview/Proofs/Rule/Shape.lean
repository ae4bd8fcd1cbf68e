import CodeReview.Proofs.Rule.Finding
import CodeReview.Proofs.Rule.Occurrence
import CodeReview.Proofs.Text.Words

/-!
Marks by their shape: what a text is in front of a mark and from the mark on. A word at a place is
free on both sides, a call is a word with an opening bracket behind it, and a naming word has white
space and a further word behind it.
-/

namespace CodeReview

open Text

namespace Pattern

variable {p : Pattern} {w : String} {front rest t : List Char}

theorem opensWord_iff : opensWord front.getLast? = true ↔ FreeEnd front := by
  rw [opensWord, FreeEnd]
  cases front.getLast? <;> simp

theorem closesWord_iff : closesWord rest = true ↔ FreeStart rest := by
  rw [closesWord, FreeStart]
  cases rest.head? <;> simp

theorem any_after?_iff {word : List Char} {f : List Char → Bool} :
    (after? word t).any f = true ↔ ∃ r, t = word ++ r ∧ f r = true := by
  rw [Option.any_eq_true]
  exact exists_congr fun r => and_congr_left' after?_eq_some_iff

theorem isWordAt_iff :
    isWordAt w front.getLast? rest = true ↔
      FreeEnd front ∧ ∃ after, rest = w.toList ++ after ∧ FreeStart after := by
  rw [isWordAt, Bool.and_eq_true, opensWord_iff, any_after?_iff]
  simp only [closesWord_iff]

theorem isCallAt_iff :
    isCallAt w front.getLast? rest = true ↔
      FreeEnd front ∧ ∃ gap after, IsGap gap ∧ rest = w.toList ++ (gap ++ '(' :: after) := by
  have hbracket : isBlank '(' = false := by decide
  rw [isCallAt, Bool.and_eq_true, opensWord_iff, any_after?_iff]
  simp only [beq_iff_eq, head?_trimStart_eq_some_iff hbracket]
  refine and_congr_right fun _ => ?_
  constructor
  · rintro ⟨r, hrest, gap, after, hgap, rfl⟩
    exact ⟨gap, after, hgap, hrest⟩
  · rintro ⟨gap, after, hgap, hrest⟩
    exact ⟨_, hrest, gap, after, hgap, rfl⟩

theorem isNamingAt_iff :
    isNamingAt w front.getLast? rest = true ↔
      FreeEnd front ∧ ∃ gap c after, gap ≠ [] ∧ IsGap gap ∧ isWord c = true ∧
        rest = w.toList ++ (gap ++ c :: after) := by
  rw [isNamingAt, Bool.and_eq_true, opensWord_iff, any_after?_iff]
  refine and_congr_right fun _ => ?_
  constructor
  · rintro ⟨r, hrest, h⟩
    rw [Bool.and_eq_true, any_head?_isBlank_iff, Option.any_eq_true] at h
    obtain ⟨⟨gap, hne, hgap, hr⟩, c, hc, hword⟩ := h
    obtain ⟨after, hafter⟩ := List.head?_eq_some_iff.1 hc
    rw [hafter] at hr
    exact ⟨gap, c, after, hne, hgap, hword, hr ▸ hrest⟩
  · rintro ⟨gap, c, after, hne, hgap, hword, hrest⟩
    refine ⟨_, hrest, ?_⟩
    have htrim : trimStart (gap ++ c :: after) = c :: after := by
      rw [trimStart_gap_append hgap, trimStart_cons_of_not_blank (isBlank_of_isWord hword)]
    rw [Bool.and_eq_true, any_head?_isBlank_iff, htrim]
    exact ⟨⟨gap, hne, hgap, rfl⟩, hword⟩

theorem beginsAt_length_iff :
    p.BeginsAt none (front ++ rest) front.length ↔
      rest ≠ [] ∧ p.startsAt front.getLast? rest = true := by
  rw [BeginsAt, List.take_left, List.drop_left, Option.or_none, List.length_append,
    ← List.length_pos_iff]
  exact and_congr_left' (by omega)

theorem occurs_iff_exists :
    p.occurs t = true ↔
      ∃ front rest, t = front ++ rest ∧ rest ≠ [] ∧ p.startsAt front.getLast? rest = true := by
  rw [occurs_iff]
  constructor
  · rintro ⟨i, hi, h⟩
    rw [Option.or_none] at h
    refine ⟨t.take i, t.drop i, (List.take_append_drop i t).symm, ?_, h⟩
    rwa [Ne, List.drop_eq_nil_iff, Nat.not_le]
  · rintro ⟨front, rest, rfl, h⟩
    exact ⟨front.length, beginsAt_length_iff.2 h⟩

end Pattern

end CodeReview
