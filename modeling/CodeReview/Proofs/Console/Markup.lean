import CodeReview.Console.Markup

/-!
The tags that are read in markup. Those of a text that has been escaped are none, and markup that
closes its tags has the same ones whatever stands behind it.
-/

namespace CodeReview.Markup

section

variable {n : Nat} {c : Char} {t : List Char}

theorem tagsAfter_nil (n : Nat) : tagsAfter n [] = [] := by
  rw [tagsAfter, piecesAfter]
  rfl

theorem tagsAfter_slash (n : Nat) (t : List Char) : tagsAfter n ('\\' :: t) = tagsAfter (n + 1) t := by
  rw [tagsAfter, piecesAfter, tagsAfter]

theorem tagsAfter_char (hslash : c ≠ '\\') (hopen : c ≠ '[') :
    tagsAfter n (c :: t) = tagsAfter 0 t := by
  rw [tagsAfter, piecesAfter, tagsAfter]
  · rfl
  · exact hslash
  · exact hopen

theorem tagsAfter_bracket (h : isTag t = true → n % 2 = 1) :
    tagsAfter n ('[' :: t) = tagsAfter 0 t := by
  rw [tagsAfter, piecesAfter, tagsAfter]
  by_cases htag : isTag t = true
  · rw [if_pos htag, if_pos (h htag)]
    rfl
  · rw [if_neg htag]
    rfl

theorem ne_close_of_mem {s : List Char} (hs : ']' ∉ s) : ∀ c ∈ s, (c != ']') = true := by
  intro c hc
  rw [bne_iff_ne]
  rintro rfl
  exact hs hc

theorem dropWhile_close {s : List Char} (hs : ']' ∉ s) (t : List Char) :
    (s ++ ']' :: t).dropWhile (· != ']') = ']' :: t := by
  rw [List.dropWhile_append_of_pos (ne_close_of_mem hs), List.dropWhile_cons_of_neg (by simp)]

theorem tagsAfter_tag {s : List Char} (hs : ']' ∉ s) (h : isTag (s ++ ']' :: t) = true)
    (hn : n % 2 = 0) :
    tagsAfter n ('[' :: (s ++ ']' :: t)) = String.ofList s :: tagsAfter 0 t := by
  rw [tagsAfter, piecesAfter, tagsAfter, if_pos h, if_neg (by omega), dropWhile_close hs,
    List.takeWhile_append_of_pos (ne_close_of_mem hs), List.takeWhile_cons_of_neg (by simp),
    List.append_nil]
  rfl

theorem tagsAfter_slashes (n k : Nat) (t : List Char) :
    tagsAfter n (List.replicate k '\\' ++ t) = tagsAfter (n + k) t := by
  induction k generalizing n with
  | zero => rfl
  | succ k ih =>
    rw [List.replicate_succ, List.cons_append, tagsAfter_slash, ih, Nat.add_right_comm, Nat.add_assoc]

end

def bracket? (t : List Char) : Option Char :=
  (t.dropWhile fun c => c != '[' && c != ']').head?

theorem isTag_cons (c : Char) (t : List Char) :
    isTag (c :: t) = (opensTag c && bracket? t == some ']') := rfl

theorem bracket?_cons {c : Char} (hopen : c ≠ '[') (hclose : c ≠ ']') (t : List Char) :
    bracket? (c :: t) = bracket? t := by
  simp [bracket?, hopen, hclose]

theorem bracket?_slashes (k : Nat) (t : List Char) :
    bracket? (List.replicate k '\\' ++ t) = bracket? t := by
  induction k with
  | zero => rfl
  | succ k ih => rw [List.replicate_succ, List.cons_append, bracket?_cons (by decide) (by decide), ih]

theorem bracket?_append (t u : List Char) :
    bracket? (t ++ u) = (bracket? t).or (bracket? u) := by
  induction t with
  | nil => rfl
  | cons c t ih =>
    by_cases hc : c = '[' ∨ c = ']'
    · rcases hc with rfl | rfl <;> rfl
    · rw [not_or] at hc
      rw [List.cons_append, bracket?_cons hc.1 hc.2, bracket?_cons hc.1 hc.2, ih]

theorem bracket?_escapeAfter (n : Nat) (t : List Char) :
    bracket? (escapeAfter n t) = bracket? t := by
  fun_induction escapeAfter n t with
  | case1 n => simp [bracket?]
  | case2 n t ih => rw [ih, bracket?_cons (by decide) (by decide)]
  | case3 n t ih =>
    rw [bracket?_slashes]
    rfl
  | case4 n c t hslash hopen ih =>
    rw [bracket?_slashes]
    by_cases hclose : c = ']'
    · subst hclose
      rfl
    · rw [bracket?_cons hopen hclose, bracket?_cons hopen hclose, ih]

theorem isTag_slashes {m : Nat} (h : 0 < m) (t : List Char) :
    isTag (List.replicate m '\\' ++ t) = false := by
  obtain ⟨k, rfl⟩ := Nat.exists_eq_add_one_of_ne_zero (Nat.pos_iff_ne_zero.1 h)
  rfl

theorem isTag_escapeAfter_of_pos {n : Nat} (h : 0 < n) (t rest : List Char) :
    isTag (escapeAfter n t ++ rest) = false := by
  fun_induction escapeAfter n t with
  | case1 n => exact isTag_slashes h rest
  | case2 n t ih => exact ih (Nat.succ_pos n)
  | case3 n t ih =>
    rw [List.append_assoc]
    refine isTag_slashes ?_ _
    split <;> omega
  | case4 n c t _ _ _ =>
    rw [List.append_assoc]
    exact isTag_slashes h _

theorem isTag_escapeAfter (t : List Char) (k : Nat) :
    isTag (escapeAfter 0 t ++ List.replicate k '\\') = isTag t := by
  fun_cases escapeAfter 0 t with
  | case1 => cases k <;> rfl
  | case2 t => exact isTag_escapeAfter_of_pos Nat.one_pos t _
  | case3 t => cases isTag t <;> rfl
  | case4 c t =>
    have hbracket : bracket? (escapeAfter 0 t ++ List.replicate k '\\') = bracket? t := by
      have hnone := bracket?_slashes k []
      rw [List.append_nil] at hnone
      rw [bracket?_append, bracket?_escapeAfter, hnone]
      exact Option.or_none
    rw [List.replicate_zero, List.nil_append, List.cons_append, isTag_cons, isTag_cons, hbracket]

/-- Each bracket of an escaped text that could begin a tag stands behind an odd number of
backslashes. -/
theorem tagsAfter_escapeAfter (n k : Nat) (t : List Char) :
    tagsAfter 0 (escapeAfter n t ++ List.replicate k '\\') = [] := by
  fun_induction escapeAfter n t with
  | case1 n =>
    rw [List.replicate_append_replicate, ← List.append_nil (List.replicate _ _), tagsAfter_slashes,
      tagsAfter_nil]
  | case2 n t ih => exact ih
  | case3 n t ih =>
    rw [List.append_assoc, tagsAfter_slashes, List.cons_append, tagsAfter_bracket, ih]
    rw [isTag_escapeAfter]
    intro h
    rw [if_pos h]
    omega
  | case4 n c t hslash hopen ih =>
    rw [List.append_assoc, tagsAfter_slashes, List.cons_append, tagsAfter_char hslash hopen, ih]

theorem exists_closeSlash (t : List Char) : ∃ k, closeSlash t = t ++ List.replicate k '\\' := by
  rw [closeSlash]
  split
  · exact ⟨0, (List.append_nil t).symm⟩
  · exact ⟨1, rfl⟩
  · exact ⟨0, (List.append_nil t).symm⟩

theorem tags_escape (s : String) : tags (escape s) = [] := by
  obtain ⟨k, hk⟩ := exists_closeSlash (escapeAfter 0 s.toList)
  rw [tags, escape, String.toList_ofList, hk, tagsAfter_escapeAfter]

section

variable {n : Nat} {s t u : List Char}

theorem exists_of_bracket? {c : Char} (h : bracket? t = some c) :
    ∃ s u, t = s ++ c :: u ∧ ']' ∉ s := by
  induction t with
  | nil => cases h
  | cons d t ih =>
    by_cases hd : d = '[' ∨ d = ']'
    · refine ⟨[], t, ?_, List.not_mem_nil⟩
      rcases hd with rfl | rfl <;> cases h <;> rfl
    · rw [not_or] at hd
      rw [bracket?_cons hd.1 hd.2] at h
      obtain ⟨s, u, rfl, hs⟩ := ih h
      exact ⟨d :: s, u, rfl, List.not_mem_cons_of_ne_of_not_mem (Ne.symm hd.2) hs⟩

theorem bracket?_of_isTag (h : isTag t = true) : bracket? t = some ']' := by
  cases t with
  | nil => cases h
  | cons c t =>
    rw [isTag_cons, Bool.and_eq_true, beq_iff_eq] at h
    have hne : c ≠ '[' ∧ c ≠ ']' := by
      constructor
      · rintro rfl
        exact absurd h.1 (by decide)
      · rintro rfl
        exact absurd h.1 (by decide)
    rw [bracket?_cons hne.1 hne.2, h.2]

/-- Markup that stands for itself behind any other: it neither is escaped by a backslash in front of
it nor closes a tag. -/
def Apart (t : List Char) : Prop :=
  (∀ c ∈ t.head?, c ≠ '\\' ∧ c ≠ '[') ∧ bracket? t ≠ some ']'

theorem bracket?_of_notMem (hopen : '[' ∉ t) (hclose : ']' ∉ t) : bracket? t = none := by
  induction t with
  | nil => rfl
  | cons c t ih =>
    rw [bracket?_cons (List.ne_of_not_mem_cons hopen).symm (List.ne_of_not_mem_cons hclose).symm,
      ih (List.not_mem_of_not_mem_cons hopen) (List.not_mem_of_not_mem_cons hclose)]

theorem apart_of_notMem (hslash : '\\' ∉ t) (hopen : '[' ∉ t) (hclose : ']' ∉ t) : Apart t := by
  refine ⟨fun c hc => ?_, by rw [bracket?_of_notMem hopen hclose]; exact nofun⟩
  have hmem := List.mem_of_mem_head? hc
  exact ⟨fun h => hslash (h ▸ hmem), fun h => hopen (h ▸ hmem)⟩

theorem bracket?_append_of_apart (h : Apart u) (t : List Char) :
    bracket? (t ++ u) = some ']' ↔ bracket? t = some ']' := by
  rw [bracket?_append]
  cases bracket? t with
  | none => exact iff_of_false h.2 nofun
  | some c => rfl

theorem isTag_append (h : Apart u) (t : List Char) : isTag (t ++ u) = isTag t := by
  rw [Bool.eq_iff_iff]
  cases t with
  | cons c t =>
    rw [List.cons_append, isTag_cons, isTag_cons, Bool.and_eq_true, Bool.and_eq_true, beq_iff_eq,
      beq_iff_eq, bracket?_append_of_apart h]
  | nil =>
    refine iff_of_false (fun htag => ?_) nofun
    exact h.2 (bracket?_of_isTag htag)

theorem isTag_of_prefix (h : isTag t = true) (u : List Char) : isTag (t ++ u) = true := by
  cases t with
  | nil => cases h
  | cons c t =>
    rw [isTag_cons, Bool.and_eq_true, beq_iff_eq] at h
    rw [List.cons_append, isTag_cons, h.1, bracket?_append, h.2]
    rfl

theorem tagsAfter_of_apart (h : Apart u) (n : Nat) : tagsAfter n u = tagsAfter 0 u := by
  cases u with
  | nil => rw [tagsAfter_nil, tagsAfter_nil]
  | cons c u =>
    obtain ⟨hslash, hopen⟩ := h.1 c rfl
    rw [tagsAfter_char hslash hopen, tagsAfter_char hslash hopen]

theorem tagsAfter_append (h : Apart u) :
    tagsAfter n (t ++ u) = tagsAfter n t ++ tagsAfter 0 u := by
  induction n, t using piecesAfter.induct with
  | case1 n => rw [List.nil_append, tagsAfter_nil, List.nil_append, tagsAfter_of_apart h]
  | case2 n t ih => rw [List.cons_append, tagsAfter_slash, tagsAfter_slash, ih]
  | case3 n t htag hodd ih =>
    rw [List.cons_append, tagsAfter_bracket fun _ => hodd, tagsAfter_bracket fun _ => hodd, ih]
  | case4 n t htag heven ih =>
    obtain ⟨s, v, rfl, hs⟩ := exists_of_bracket? (bracket?_of_isTag htag)
    have heven' : n % 2 = 0 := by omega
    have hmore := isTag_append h (s ++ ']' :: v)
    rw [dropWhile_close hs] at ih
    rw [htag, List.append_assoc, List.cons_append] at hmore
    rw [List.cons_append, List.append_assoc, List.cons_append, tagsAfter_tag hs hmore heven',
      tagsAfter_tag hs htag heven', List.cons_append]
    exact congrArg (String.ofList s :: ·) ih
  | case5 n t htag ih =>
    rw [List.cons_append, tagsAfter_bracket, tagsAfter_bracket fun h => absurd h htag, ih]
    rw [isTag_append h]
    exact fun h => absurd h htag
  | case6 n c t hslash hopen ih =>
    rw [List.cons_append, tagsAfter_char hslash hopen, tagsAfter_char hslash hopen, ih]

end

theorem tags_append {m rest : String} (h : Apart rest.toList) :
    tags (m ++ rest) = tags m ++ tags rest := by
  rw [tags, String.toList_append, tagsAfter_append h]
  rfl

/-- Markup that closes its tags and does not escape what stands behind it. -/
def Closed (m : String) : Prop :=
  ∀ rest, tags (m ++ rest) = tags m ++ tags rest

theorem Closed.append {m m' : String} (h : Closed m) (h' : Closed m') : Closed (m ++ m') := by
  intro rest
  rw [String.append_assoc, h, h, h', List.append_assoc]

theorem tags_empty : tags "" = [] :=
  tagsAfter_nil 0

def Plain (m : String) : Prop :=
  ∀ c ∈ m.toList, c ≠ '\\' ∧ c ≠ '['

theorem plain_ofList {t : List Char} (h : t.all (fun c => c != '\\' && c != '[') = true) :
    Plain (String.ofList t) := by
  simpa only [Plain, String.toList_ofList, List.all_eq_true, Bool.and_eq_true, bne_iff_ne] using h

theorem tagsAfter_plain {t : List Char} (h : ∀ c ∈ t, c ≠ '\\' ∧ c ≠ '[') (rest : List Char) :
    tagsAfter 0 (t ++ rest) = tagsAfter 0 rest := by
  induction t with
  | nil => rfl
  | cons c t ih =>
    rw [List.forall_mem_cons] at h
    rw [List.cons_append, tagsAfter_char h.1.1 h.1.2, ih h.2]

theorem Plain.tags_append {m : String} (h : Plain m) (rest : String) :
    tags (m ++ rest) = tags rest := by
  rw [tags, String.toList_append, tagsAfter_plain h, tags]

theorem Plain.tags_eq_nil {m : String} (h : Plain m) : tags m = [] := by
  rw [← String.append_empty (s := m), h.tags_append, tags_empty]

theorem Plain.closed {m : String} (h : Plain m) : Closed m := by
  intro rest
  rw [h.tags_append, h.tags_eq_nil, List.nil_append]

def IsTagName (s : String) : Prop :=
  isTag (s.toList ++ [']']) = true ∧ ']' ∉ s.toList

theorem IsTagName.tags_append {s : String} (h : IsTagName s) (rest : String) :
    tags ("[" ++ s ++ "]" ++ rest) = s :: tags rest := by
  have htag : isTag (s.toList ++ ']' :: rest.toList) = true := by
    rw [← List.singleton_append, ← List.append_assoc]
    exact isTag_of_prefix h.1 _
  have hchars : ("[" ++ s ++ "]" ++ rest).toList = '[' :: (s.toList ++ ']' :: rest.toList) := by
    simp only [String.toList_append, List.append_assoc]
    rfl
  rw [tags, hchars, tagsAfter_tag h.2 htag (by rfl), String.ofList_toList, tags]

theorem IsTagName.tags_eq {s : String} (h : IsTagName s) : tags ("[" ++ s ++ "]") = [s] := by
  rw [← String.append_empty (s := "[" ++ s ++ "]"), h.tags_append, tags_empty]

theorem IsTagName.closed {s : String} (h : IsTagName s) : Closed ("[" ++ s ++ "]") := by
  intro rest
  rw [h.tags_append, h.tags_eq, List.singleton_append]

end CodeReview.Markup
