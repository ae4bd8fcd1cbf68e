import CodeReview.Text.Basic

/-!
The segments of a text are its lines, each with its line break. None has a line break but at its
end, and where one ends and another begins, no line break is cut in two.
-/

namespace CodeReview.Text

/-- Between these two parts a text has the end of a line: the first ends with a line break, and the
second does not go on with it. -/
inductive EndsLine : (before after : List Char) → Prop
  | intro {front after : List Char} {c : Char} (ended : isLineBreak c = true)
      (whole : c = '\r' → after.head? ≠ some '\n') : EndsLine (front ++ [c]) after

theorem EndsLine.append {before after : List Char} (h : EndsLine before after) (t : List Char) :
    EndsLine (t ++ before) after := by
  obtain ⟨ended, whole⟩ := h
  rw [← List.append_assoc]
  exact ⟨ended, whole⟩

/-- A single line: a text without line breaks, an end of a line, or both. -/
inductive OneLine : List Char → Prop
  | unended {body : List Char} (some : body ≠ []) (plain : ∀ c ∈ body, isLineBreak c = false) :
      OneLine body
  | ended {body : List Char} {c : Char} (plain : ∀ c ∈ body, isLineBreak c = false)
      (ended : isLineBreak c = true) : OneLine (body ++ [c])
  | crlf {body : List Char} (plain : ∀ c ∈ body, isLineBreak c = false) :
      OneLine (body ++ ['\r', '\n'])

theorem OneLine.cons {s : List Char} (h : OneLine s) {c : Char} (hc : isLineBreak c = false) :
    OneLine (c :: s) := by
  cases h with
  | unended some plain =>
    exact .unended (List.cons_ne_nil c s) (List.forall_mem_cons.2 ⟨hc, plain⟩)
  | ended plain ended => exact .ended (List.forall_mem_cons.2 ⟨hc, plain⟩) ended
  | crlf plain => exact .crlf (List.forall_mem_cons.2 ⟨hc, plain⟩)

theorem oneLine_of_mem_segments {t s : List Char} (h : s ∈ segments t) : OneLine s := by
  fun_induction segments t generalizing s with
  | case1 => cases h
  | case2 t ih =>
    obtain rfl | h := List.mem_cons.1 h
    · exact @OneLine.crlf [] (List.forall_mem_nil _)
    · exact ih h
  | case3 c t _ hc ih =>
    obtain rfl | h := List.mem_cons.1 h
    · exact @OneLine.ended [] c (List.forall_mem_nil _) hc
    · exact ih h
  | case4 c t _ hc hs ih =>
    obtain rfl := List.mem_singleton.1 h
    exact .unended (List.cons_ne_nil c []) (by simpa using hc)
  | case5 c t _ hc s' ss hs ih =>
    rw [hs] at ih
    obtain rfl | h := List.mem_cons.1 h
    · exact (ih List.mem_cons_self).cons (by simpa using hc)
    · exact ih (List.mem_cons_of_mem s' h)

theorem endsLine_of_segments {t : List Char} {ls rest : List (List Char)}
    (h : segments t = ls ++ rest) (hls : ls ≠ []) (hrest : rest ≠ []) :
    EndsLine ls.flatten rest.flatten := by
  fun_induction segments t generalizing ls with
  | case1 => exact absurd (List.append_eq_nil_iff.1 h.symm).1 hls
  -- a carriage return and a line feed end a line together
  | case2 t ih =>
    obtain ⟨l, ls, rfl⟩ := List.exists_cons_of_ne_nil hls
    rw [List.cons_append, List.cons.injEq] at h
    obtain ⟨rfl, h⟩ := h
    rw [List.flatten_cons]
    by_cases hmore : ls = []
    · rw [hmore, List.flatten_nil, List.append_nil]
      exact @EndsLine.intro ['\r'] _ '\n' (by decide) fun h => absurd h (by decide)
    · exact (ih h hmore).append _
  | case3 c t hcrlf hc ih =>
    obtain ⟨l, ls, rfl⟩ := List.exists_cons_of_ne_nil hls
    rw [List.cons_append, List.cons.injEq] at h
    obtain ⟨rfl, h⟩ := h
    rw [List.flatten_cons]
    by_cases hmore : ls = []
    · have hflat := flatten_segments t
      rw [h, hmore, List.nil_append] at hflat
      rw [hmore, hflat]
      refine @EndsLine.intro [] t c hc fun hr hn => ?_
      cases t with
      | nil => cases hn
      | cons d t => exact hcrlf t hr (by rw [Option.some.inj hn])
    · exact (ih h hmore).append _
  | case4 c t _ hc hs ih =>
    obtain ⟨l, ls, rfl⟩ := List.exists_cons_of_ne_nil hls
    rw [List.cons_append, List.cons.injEq] at h
    exact absurd (List.append_eq_nil_iff.1 h.2.symm).2 hrest
  | case5 c t _ hc s ss hs ih =>
    obtain ⟨l, ls, rfl⟩ := List.exists_cons_of_ne_nil hls
    rw [List.cons_append, List.cons.injEq] at h
    obtain ⟨rfl, h⟩ := h
    have hends : EndsLine (s :: ls).flatten rest.flatten :=
      ih (by rw [hs, h, List.cons_append]) (List.cons_ne_nil s ls)
    exact hends.append [c]

end CodeReview.Text
