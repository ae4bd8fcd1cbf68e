import CodeReview.Proofs.Chunk

/-!
The chunks of a text are as few as can be. Filling each group as far as it goes is never behind:
who has less in hand needs no more groups for what is left, and who has more in hand needs at most
one group more. So one group of another way to cut the text costs one group here too.
-/

namespace CodeReview.Chunk

open Text

variable {limit : Int} {held held' ss g : List (List Char)} {size size' : Nat} {s : List Char}

theorem fill_keep (h : held = [] ∨ ((size + s.length : Nat) : Int) ≤ limit) :
    fill limit held size (s :: ss) = fill limit (s :: held) (size + s.length) ss := by
  have hroom : ¬(!held.isEmpty && limit < (size + s.length : Nat)) = true := by
    rw [Bool.and_eq_true, decide_eq_true_eq]
    rintro ⟨hheld, hover⟩
    obtain rfl | h := h
    · exact Bool.noConfusion hheld
    · omega
  rw [fill, if_neg hroom]

theorem fill_cut (hheld : held ≠ []) (hover : limit < (size + s.length : Nat)) :
    fill limit held size (s :: ss) = held.reverse :: fill limit [s] s.length ss := by
  have hcut : (!held.isEmpty && limit < (size + s.length : Nat)) = true := by
    rw [Bool.and_eq_true, decide_eq_true_eq]
    exact ⟨by simpa using hheld, hover⟩
  rw [fill, if_pos hcut]

/-- The two parts need each other: where only the second one cuts, it has then less in hand but is
one group ahead, and where only the first one cuts, it has less in hand from then on. -/
theorem length_fill_le (limit : Int) (held held' : List (List Char)) (size size' : Nat)
    (ss : List (List Char)) :
    (held' ≠ [] → size ≤ size' →
      (fill limit held size ss).length ≤ (fill limit held' size' ss).length) ∧
    (fill limit held size ss).length ≤ (fill limit held' size' ss).length + 1 := by
  induction ss generalizing held held' size size' with
  | nil =>
    have hone : (fill limit held size []).length ≤ 1 := by
      rw [fill]
      split <;> simp
    refine ⟨fun hne _ => ?_, Nat.le_trans hone (Nat.le_add_left 1 _)⟩
    have hheld' : (fill limit held' size' []).length = 1 := by simp [fill, hne]
    rwa [hheld']
  | cons s ss ih =>
    -- whether each side cuts in front of `s`: where only one does, the other part
    -- of the induction hypothesis is wanted
    by_cases hkeep : held = [] ∨ ((size + s.length : Nat) : Int) ≤ limit
    · by_cases hkeep' : held' = [] ∨ ((size' + s.length : Nat) : Int) ≤ limit
      · rw [fill_keep hkeep, fill_keep hkeep']
        have hrest := ih (s :: held) (s :: held') (size + s.length) (size' + s.length)
        exact ⟨fun _ hle => hrest.1 (List.cons_ne_nil s held') (by omega), hrest.2⟩
      · rw [not_or, Int.not_le] at hkeep'
        rw [fill_keep hkeep, fill_cut hkeep'.1 hkeep'.2, List.length_cons]
        have hrest := (ih (s :: held) [s] (size + s.length) s.length).2
        exact ⟨fun _ _ => hrest, Nat.le_succ_of_le hrest⟩
    · rw [not_or, Int.not_le] at hkeep
      by_cases hkeep' : held' = [] ∨ ((size' + s.length : Nat) : Int) ≤ limit
      · rw [fill_cut hkeep.1 hkeep.2, fill_keep hkeep', List.length_cons]
        have hrest := (ih [s] (s :: held') s.length (size' + s.length)).1
          (List.cons_ne_nil s held') (Nat.le_add_left _ _)
        refine ⟨fun hne hle => ?_, Nat.succ_le_succ hrest⟩
        have hroom := hkeep'.resolve_left hne
        omega
      · rw [not_or, Int.not_le] at hkeep'
        rw [fill_cut hkeep.1 hkeep.2, fill_cut hkeep'.1 hkeep'.2, List.length_cons,
          List.length_cons]
        exact ⟨fun _ _ => Nat.le_refl _, Nat.le_succ _⟩

theorem length_fill_append_le (hsmall : ((size + g.flatten.length : Nat) : Int) ≤ limit)
    (rest : List (List Char)) :
    (fill limit held size (g ++ rest)).length ≤ (fill limit [] 0 rest).length + 1 := by
  induction g generalizing held size with
  | nil => exact (length_fill_le limit held [] size 0 rest).2
  | cons s g ih =>
    rw [List.flatten_cons, List.length_append] at hsmall
    rw [List.cons_append, fill_keep (.inr (by omega))]
    exact ih (by omega)

theorem length_fill_group_le (h : (g.flatten.length : Int) ≤ limit ∨ ∃ s, g = [s])
    (rest : List (List Char)) :
    (fill limit [] 0 (g ++ rest)).length ≤ (fill limit [] 0 rest).length + 1 := by
  obtain hsmall | ⟨s, rfl⟩ := h
  · exact length_fill_append_le (by rwa [Nat.zero_add]) rest
  · rw [List.singleton_append, fill_keep (.inl rfl)]
    exact (length_fill_le limit [s] [] (0 + s.length) 0 rest).2

theorem length_fill_flatten_le {gs : List (List (List Char))}
    (h : ∀ g ∈ gs, (g.flatten.length : Int) ≤ limit ∨ ∃ s, g = [s]) :
    (fill limit [] 0 gs.flatten).length ≤ gs.length := by
  induction gs with
  | nil => exact Nat.le_refl 0
  | cons g gs ih =>
    rw [List.forall_mem_cons] at h
    rw [List.flatten_cons, List.length_cons]
    exact Nat.le_trans (length_fill_group_le h.1 gs.flatten) (Nat.succ_le_succ (ih h.2))

/-- The chunks of a text are one way to put its lines into groups that are within the limit or hold
a single line, and no such way has fewer groups. -/
theorem fewest_chunks (limit : Int) {t : List Char} (ht : t ≠ []) :
    (∃ gs, Grouping limit t gs ∧ ofText limit t = gs.map List.flatten) ∧
    ∀ gs : List (List (List Char)), gs.flatten = segments t →
      (∀ g ∈ gs, (g.flatten.length : Int) ≤ limit ∨ ∃ s, g = [s]) →
      (ofText limit t).length ≤ gs.length := by
  have hgroups := ofText_eq_map_groups limit ht
  refine ⟨⟨groups limit t, grouping_groups limit t, hgroups⟩, fun gs hwhole hfits => ?_⟩
  rw [hgroups, List.length_map, groups, ← hwhole]
  exact length_fill_flatten_le hfits

theorem fewest_chunks_around_long_line :
    "a\r\nlong line\nc\nd".toList ≠ [] ∧
    ofText 4 "a\r\nlong line\nc\nd".toList =
      ["a\r\n".toList, "long line\n".toList, "c\nd".toList] ∧
    ∀ gs : List (List (List Char)), gs.flatten = segments "a\r\nlong line\nc\nd".toList →
      (∀ g ∈ gs, (g.flatten.length : Int) ≤ 4 ∨ ∃ s, g = [s]) → 3 ≤ gs.length := by
  have ht : "a\r\nlong line\nc\nd".toList ≠ [] := by decide
  have hchunks : ofText 4 "a\r\nlong line\nc\nd".toList =
      ["a\r\n".toList, "long line\n".toList, "c\nd".toList] := by decide
  refine ⟨ht, hchunks, fun gs hwhole hfits => ?_⟩
  have hfewest := (fewest_chunks 4 ht).2 gs hwhole hfits
  rwa [hchunks] at hfewest

end CodeReview.Chunk
