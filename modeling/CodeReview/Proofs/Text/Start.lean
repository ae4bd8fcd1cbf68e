import CodeReview.Text.Case

/-!
What stands at the start of a text, where the text goes on: words, white space and runs of one kind
of character. A character that a word does not hold stops the word.
-/

namespace CodeReview.Text

theorem head?_beq_some (t : List Char) (c : Char) : (t.head? == some c) = t.head?.any (· == c) := by
  cases t <;> rfl

/-- There is no line break in the word. -/
abbrev Unbroken (w : List Char) : Prop :=
  '\r' ∉ w ∧ '\n' ∉ w

theorem after?_break {w : List Char} (hw : w ≠ []) (hunbroken : Unbroken w) {c : Char}
    (hc : c = '\r' ∨ c = '\n') (t : List Char) : after? w (c :: t) = none := by
  cases w with
  | nil => exact absurd rfl hw
  | cons d w =>
    have hne : d ≠ c := by
      rintro rfl
      rcases hc with rfl | rfl
      · exact hunbroken.1 List.mem_cons_self
      · exact hunbroken.2 List.mem_cons_self
    rw [after?, if_neg hne]

theorem after?_append_cons {w : List Char} {c : Char} (hc : c ∉ w) (t u : List Char) :
    after? w (t ++ c :: u) = (after? w t).map (· ++ c :: u) := by
  induction w generalizing t with
  | nil => rfl
  | cons d w ih =>
    rw [List.mem_cons, not_or] at hc
    cases t with
    | nil => simp [after?, Ne.symm hc.1]
    | cons e t =>
      simp only [List.cons_append, after?]
      split
      · exact ih hc.2 t
      · rfl

def Avoids (w : List Char) (c : Char) : Prop :=
  ∀ d ∈ w, isLetterCI d c = false

instance (w : List Char) (c : Char) : Decidable (Avoids w c) :=
  List.decidableBAll _ w

theorem avoids_cons {d c : Char} {w : List Char} :
    Avoids (d :: w) c ↔ isLetterCI d c = false ∧ Avoids w c :=
  List.forall_mem_cons

theorem afterCI?_append_cons {w : List Char} {c : Char} (hc : Avoids w c) (t u : List Char) :
    afterCI? w (t ++ c :: u) = (afterCI? w t).map (· ++ c :: u) := by
  induction w generalizing t with
  | nil => rfl
  | cons d w ih =>
    rw [avoids_cons] at hc
    cases t with
    | nil => simp [afterCI?, hc.1]
    | cons e t =>
      simp only [List.cons_append, afterCI?]
      split
      · exact ih hc.2 t
      · rfl

theorem trimStart_append (t u : List Char) :
    trimStart (t ++ u) = if trimStart t = [] then trimStart u else trimStart t ++ u := by
  by_cases ht : trimStart t = []
  · rw [trimStart] at ht
    simp [trimStart, List.dropWhile_append, ht]
  · rw [trimStart] at ht
    simp [trimStart, List.dropWhile_append, ht]

theorem trimStart_cons_of_blank {c : Char} (hc : isBlank c = true) (t : List Char) :
    trimStart (c :: t) = trimStart t :=
  List.dropWhile_cons_of_pos hc

theorem takeWhile_append_cons {f : Char → Bool} {c : Char} (hc : f c = false) (t u : List Char) :
    (t ++ c :: u).takeWhile f = t.takeWhile f := by
  induction t with
  | nil => simp [hc]
  | cons d t ih => simp only [List.cons_append, List.takeWhile_cons, ih]

theorem dropWhile_append_cons {f : Char → Bool} {c : Char} (hc : f c = false) (t u : List Char) :
    (t ++ c :: u).dropWhile f = t.dropWhile f ++ c :: u := by
  induction t with
  | nil => simp [hc]
  | cons d t ih =>
    simp only [List.cons_append, List.dropWhile_cons, ih]
    split <;> rfl

theorem takeWhile_append_of_stop {f : Char → Bool} {w rest : List Char}
    (hw : ∀ c ∈ w, f c = true) (hrest : ∀ c ∈ rest.head?, f c = false) :
    (w ++ rest).takeWhile f = w ∧ (w ++ rest).dropWhile f = rest := by
  rw [List.takeWhile_append_of_pos hw, List.dropWhile_append_of_pos hw]
  cases rest with
  | nil => exact ⟨List.append_nil w, rfl⟩
  | cons c rest =>
    have hc : ¬f c = true := Bool.eq_false_iff.1 (hrest c rfl)
    rw [List.takeWhile_cons_of_neg hc, List.dropWhile_cons_of_neg hc, List.append_nil]
    exact ⟨rfl, rfl⟩

def IsGap (g : List Char) : Prop :=
  ∀ c ∈ g, isBlank c = true

theorem isGap_takeWhile (t : List Char) : IsGap (t.takeWhile isBlank) :=
  List.all_eq_true.1 List.all_takeWhile

theorem exists_gap (t : List Char) : ∃ gap, IsGap gap ∧ t = gap ++ trimStart t :=
  ⟨_, isGap_takeWhile t, List.takeWhile_append_dropWhile.symm⟩

theorem trimStart_gap_append {gap : List Char} (h : IsGap gap) (t : List Char) :
    trimStart (gap ++ t) = trimStart t :=
  List.dropWhile_append_of_pos h

theorem trimStart_cons_of_not_blank {c : Char} (hc : isBlank c = false) (t : List Char) :
    trimStart (c :: t) = c :: t :=
  List.dropWhile_cons_of_neg (Bool.eq_false_iff.1 hc)

theorem trimStart_eq_cons_iff {c : Char} (hc : isBlank c = false) {t u : List Char} :
    trimStart t = c :: u ↔ ∃ gap, IsGap gap ∧ t = gap ++ c :: u := by
  constructor
  · intro h
    obtain ⟨gap, hgap, ht⟩ := exists_gap t
    exact ⟨gap, hgap, h ▸ ht⟩
  · rintro ⟨gap, hgap, rfl⟩
    rw [trimStart_gap_append hgap, trimStart_cons_of_not_blank hc]

theorem head?_trimStart_eq_some_iff {c : Char} (hc : isBlank c = false) {t : List Char} :
    (trimStart t).head? = some c ↔ ∃ gap u, IsGap gap ∧ t = gap ++ c :: u := by
  rw [List.head?_eq_some_iff]
  constructor
  · rintro ⟨u, hu⟩
    obtain ⟨gap, hgap, ht⟩ := (trimStart_eq_cons_iff hc).1 hu
    exact ⟨gap, u, hgap, ht⟩
  · rintro ⟨gap, u, hgap, ht⟩
    exact ⟨u, (trimStart_eq_cons_iff hc).2 ⟨gap, hgap, ht⟩⟩

theorem any_head?_isBlank_iff {t : List Char} :
    t.head?.any isBlank = true ↔ ∃ gap, gap ≠ [] ∧ IsGap gap ∧ t = gap ++ trimStart t := by
  constructor
  · intro h
    obtain ⟨gap, hgap, ht⟩ := exists_gap t
    refine ⟨gap, fun hnil => ?_, hgap, ht⟩
    rw [hnil, List.nil_append] at ht
    cases t with
    | nil => cases h
    | cons c t =>
      have hlength := congrArg List.length ht
      have hrest := (List.dropWhile_sublist isBlank (l := t)).length_le
      rw [trimStart_cons_of_blank h, trimStart, List.length_cons] at hlength
      omega
  · rintro ⟨gap, hne, hgap, ht⟩
    obtain ⟨c, gap, rfl⟩ := List.exists_cons_of_ne_nil hne
    rw [ht]
    exact hgap c List.mem_cons_self

end CodeReview.Text
