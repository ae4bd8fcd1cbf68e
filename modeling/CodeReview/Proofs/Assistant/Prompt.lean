import CodeReview.Assistant.Prompt

/-!
Filled prompts. Whatever the values are, braces included, each stands in its gap as it was given,
and the text around the gaps is the one of the template.
-/

namespace CodeReview.Prompt

variable {value : List Char → List Char} {name text rest : List Char}

theorem fill_append (h : '{' ∉ text) :
    fill value none (text ++ rest) = text ++ fill value none rest := by
  induction text with
  | nil => rfl
  | cons c t ih =>
    have hc : c ≠ '{' := fun hc => h (by rw [hc]; exact List.mem_cons_self)
    have ht : '{' ∉ t := fun ht => h (List.mem_cons_of_mem c ht)
    simp only [List.cons_append, fill, hc, if_false, ih ht]

theorem fill_name {held : List Char} (h : '}' ∉ name) :
    fill value (some held) (name ++ '}' :: rest) =
      value (held.reverse ++ name) ++ fill value none rest := by
  induction name generalizing held with
  | nil => simp [fill]
  | cons c t ih =>
    have hc : c ≠ '}' := fun hc => h (by rw [hc]; exact List.mem_cons_self)
    have ht : '}' ∉ t := fun ht => h (List.mem_cons_of_mem c ht)
    simp only [List.cons_append, fill, hc, if_false, ih ht, List.reverse_cons,
      List.append_assoc, List.nil_append]

theorem fill_gap (h : '}' ∉ name) :
    fill value none ('{' :: (name ++ '}' :: rest)) = value name ++ fill value none rest := by
  have hname : fill value (some []) (name ++ '}' :: rest) = value name ++ fill value none rest :=
    fill_name h
  rw [fill, if_pos rfl, hname]

theorem fill_text (h : '{' ∉ text) : fill value none text = text := by
  have hfill : fill value none (text ++ []) = text ++ fill value none [] := fill_append h
  rwa [List.append_nil, fill, List.append_nil] at hfill

theorem not_mem_toList {c : Char} {s : String} (hs : s = String.ofList text) (h : c ∉ text) :
    c ∉ s.toList := by
  rwa [hs, String.toList_ofList]

theorem not_mem_toList_append {c : Char} {s t : String} (hs : c ∉ s.toList) (ht : c ∉ t.toList) :
    c ∉ (s ++ t).toList := by
  rw [String.toList_append, List.mem_append]
  exact not_or.2 ⟨hs, ht⟩

theorem brace_not_mem_instructions : '{' ∉ instructions.toList := by
  unfold instructions
  iterate 6 refine not_mem_toList_append ?_ (not_mem_toList rfl (by decide +kernel))
  exact not_mem_toList rfl (by decide +kernel)

theorem toList_opening : opening.toList =
    "Review the following ".toList ++ ('{' :: "language".toList ++ '}' ::
    (" code from ".toList ++ ('{' :: "path".toList ++ '}' ::
    (" and provide a detailed analysis:\n\nCODE:\n".toList ++ ('{' :: "code".toList ++ ['}']))))) := by
  unfold opening
  simp

theorem review_eq (language path code : String) : review language path code =
    "Review the following " ++ language ++ " code from " ++ path
      ++ " and provide a detailed analysis:\n\nCODE:\n" ++ code ++ instructions := by
  have htemplate : template.toList = opening.toList ++ instructions.toList :=
    String.toList_append
  apply String.toList_injective
  simp only [review, String.toList_ofList, htemplate, toList_opening, List.append_assoc,
    List.cons_append, List.nil_append]
  rw [fill_append (by simp), fill_gap (by simp), fill_append (by simp), fill_gap (by simp),
    fill_append (by simp), fill_gap (by simp), fill_text brace_not_mem_instructions]
  simp [gapValue]

end CodeReview.Prompt
