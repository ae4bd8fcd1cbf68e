import CodeReview.Chunk
import CodeReview.Proofs.Text.Segments

/-!
What the chunks of a text are: groups of whole lines, of which one is larger than the limit only if
it is a single line. A text within the limit is one group, so it makes no difference that such a
text is not taken apart.
-/

namespace CodeReview.Chunk

open Text

variable {limit : Int} {t : List Char}

structure Fits (limit : Int) (g : List (List Char)) : Prop where
  filled : g ≠ []
  small : (g.flatten.length : Int) ≤ limit ∨ ∃ s, g = [s]

/-- A way to put the segments of a text into chunks, in their order. -/
structure Grouping (limit : Int) (t : List Char) (gs : List (List (List Char))) : Prop where
  whole : gs.flatten = segments t
  fits : ∀ g ∈ gs, Fits limit g

theorem segments_ne_nil (h : t ≠ []) : segments t ≠ [] := by
  intro hnil
  have hflat := flatten_segments t
  rw [hnil] at hflat
  exact h hflat.symm

theorem length_flatten_reverse_cons (s : List Char) (held : List (List Char)) :
    (s :: held).reverse.flatten.length = held.reverse.flatten.length + s.length := by
  simp

theorem fits_of_mem_fill {held : List (List Char)} {size : Nat} {ss : List (List Char)}
    (hsize : size = held.reverse.flatten.length) (hheld : held = [] ∨ Fits limit held.reverse) :
    ∀ g ∈ fill limit held size ss, Fits limit g := by
  -- by the segments that are still to come: what is held fits as it is
  induction ss generalizing held size with
  | nil =>
    intro g hg
    simp only [fill] at hg
    split at hg
    · cases hg
    · next hne =>
      rw [List.mem_singleton.1 hg]
      exact hheld.resolve_left fun hnil => hne (by simp [hnil])
  | cons s ss ih =>
    have hsingle : Fits limit [s].reverse := ⟨by simp, .inr ⟨s, by simp⟩⟩
    intro g hg
    simp only [fill, Bool.and_eq_true, Bool.not_eq_true', decide_eq_true_eq] at hg
    split at hg
    · next hcut =>
      obtain rfl | hg := List.mem_cons.1 hg
      · exact hheld.resolve_left fun hnil => by simp [hnil] at hcut
      · exact ih (by simp) (.inr hsingle) g hg
    · next hkeep =>
      refine ih (by rw [length_flatten_reverse_cons, hsize]) (.inr ?_) g hg
      by_cases hnil : held = []
      · rw [hnil]
        exact hsingle
      · have hroom : ((size + s.length : Nat) : Int) ≤ limit :=
          Int.not_lt.1 fun hover => hkeep ⟨by simpa using hnil, hover⟩
        refine ⟨by simp, .inl ?_⟩
        rwa [length_flatten_reverse_cons, ← hsize]

theorem grouping_groups (limit : Int) (t : List Char) : Grouping limit t (groups limit t) where
  whole := by
    rw [groups, flatten_fill]
    rfl
  fits := fits_of_mem_fill rfl (.inl rfl)

theorem fill_of_le {held : List (List Char)} {size : Nat} {ss : List (List Char)}
    (h : ((size + ss.flatten.length : Nat) : Int) ≤ limit) (hne : held ≠ [] ∨ ss ≠ []) :
    fill limit held size ss = [held.reverse ++ ss] := by
  induction ss generalizing held size with
  | nil =>
    have hheld : held ≠ [] := hne.resolve_right fun hnil => hnil rfl
    simp [fill, hheld]
  | cons s ss ih =>
    rw [List.flatten_cons, List.length_append] at h
    have hkeep : ¬(!held.isEmpty && limit < (size + s.length : Nat)) = true := by
      rw [Bool.and_eq_true, decide_eq_true_eq]
      omega
    rw [fill, if_neg hkeep, ih (by omega) (.inl (List.cons_ne_nil s held)),
      List.reverse_cons, List.append_assoc, List.singleton_append]

theorem groups_of_le (ht : t ≠ []) (h : (t.length : Int) ≤ limit) :
    groups limit t = [segments t] := by
  have hsize : ((0 + (segments t).flatten.length : Nat) : Int) ≤ limit := by
    rwa [flatten_segments, Nat.zero_add]
  rw [groups, fill_of_le hsize (.inr (segments_ne_nil ht))]
  rfl

theorem ofText_eq_map_groups (limit : Int) (ht : t ≠ []) :
    ofText limit t = (groups limit t).map List.flatten := by
  rw [ofText]
  split
  · next h => rw [groups_of_le ht h, List.map_singleton, flatten_segments]
  · rfl

theorem ne_nil_of_mem_ofText (ht : t ≠ []) {chunk : List Char} (h : chunk ∈ ofText limit t) :
    chunk ≠ [] := by
  rw [ofText_eq_map_groups limit ht] at h
  obtain ⟨g, hg, rfl⟩ := List.mem_map.1 h
  obtain ⟨s, ss, rfl⟩ := List.exists_cons_of_ne_nil ((grouping_groups limit t).fits g hg).filled
  have hs : s ∈ segments t := by
    rw [← (grouping_groups limit t).whole]
    exact List.mem_flatten.2 ⟨_, hg, List.mem_cons_self⟩
  rw [List.flatten_cons]
  exact List.append_ne_nil_of_left_ne_nil (ne_nil_of_mem_segments hs) _

theorem segments_of_ofText {before after : List (List Char)} (h : ofText limit t = before ++ after)
    (hbefore : before ≠ []) (hafter : after ≠ []) :
    ∃ ls rest, segments t = ls ++ rest ∧ before.flatten = ls.flatten ∧
      after.flatten = rest.flatten ∧ EndsLine ls.flatten rest.flatten := by
  have ht : t ≠ [] := by
    rintro rfl
    have hlen := congrArg List.length h
    rw [List.length_append, ofText] at hlen
    have hpos := List.length_pos_iff.2 hbefore
    have hpos' := List.length_pos_iff.2 hafter
    split at hlen
    · rw [List.length_singleton] at hlen
      omega
    · rw [show groups limit [] = [] from rfl, List.map_nil, List.length_nil] at hlen
      omega
  rw [ofText_eq_map_groups limit ht, List.map_eq_append_iff] at h
  obtain ⟨gs, gs', hgs, rfl, rfl⟩ := h
  have hgrouping := grouping_groups limit t
  have hsegments : segments t = gs.flatten ++ gs'.flatten := by
    rw [← hgrouping.whole, hgs, List.flatten_append]
  have hfilled : ∀ {gs : List (List (List Char))}, gs.map List.flatten ≠ [] →
      (∀ g ∈ gs, g ∈ groups limit t) → gs.flatten ≠ [] := by
    intro gs hne hmem hnil
    obtain ⟨g, gs, rfl⟩ := List.exists_cons_of_ne_nil (mt List.map_eq_nil_iff.2 hne)
    rw [List.flatten_cons, List.append_eq_nil_iff] at hnil
    exact (hgrouping.fits g (hmem g List.mem_cons_self)).filled hnil.1
  refine ⟨_, _, hsegments, List.flatten_flatten.symm, List.flatten_flatten.symm,
    endsLine_of_segments hsegments (hfilled hbefore fun g hg => ?_)
      (hfilled hafter fun g hg => ?_)⟩
  · rw [hgs]
    exact List.mem_append_left gs' hg
  · rw [hgs]
    exact List.mem_append_right gs hg

theorem small_of_mem_ofText {chunk : List Char} (h : chunk ∈ ofText limit t) :
    (chunk.length : Int) ≤ limit ∨ chunk ∈ segments t ∧ OneLine chunk := by
  rw [ofText] at h
  split at h
  · next hsmall =>
    rw [List.mem_singleton.1 h]
    exact .inl hsmall
  · obtain ⟨g, hg, rfl⟩ := List.mem_map.1 h
    refine ((grouping_groups limit t).fits g hg).small.imp_right ?_
    rintro ⟨s, rfl⟩
    have hs : s ∈ segments t := by
      rw [← (grouping_groups limit t).whole]
      exact List.mem_flatten.2 ⟨_, hg, List.mem_singleton_self s⟩
    rw [List.flatten_singleton]
    exact ⟨hs, oneLine_of_mem_segments hs⟩

/-- The chunks of a text, whatever the limit is, also zero and less: joined they are the text; one
that is not empty has a chunk at least, none of its chunks is empty, and they are those that the
groups of its segments make up. Chunks are cut only where a line ends, and one that is larger than
the limit is a single line. -/
theorem chunks_of_text (limit : Int) (t : List Char) :
    (ofText limit t).flatten = t ∧
    (t ≠ [] → ofText limit t ≠ [] ∧ (∀ chunk ∈ ofText limit t, chunk ≠ []) ∧
      ofText limit t = (groups limit t).map List.flatten) ∧
    (∀ before after, ofText limit t = before ++ after → before ≠ [] → after ≠ [] →
      ∃ ls rest, segments t = ls ++ rest ∧ before.flatten = ls.flatten ∧
        after.flatten = rest.flatten ∧ EndsLine ls.flatten rest.flatten) ∧
    ∀ chunk ∈ ofText limit t,
      (chunk.length : Int) ≤ limit ∨ chunk ∈ segments t ∧ OneLine chunk := by
  exact ⟨flatten_ofText limit t, fun ht => ⟨ofText_ne_nil limit ht,
    fun _ => ne_nil_of_mem_ofText ht, ofText_eq_map_groups limit ht⟩,
    fun _ _ => segments_of_ofText, fun _ => small_of_mem_ofText⟩

example : ofText 2 "a\r\nb\x0bcd".toList = ["a\r\n".toList, "b\x0b".toList, "cd".toList] := by
  decide

end CodeReview.Chunk
