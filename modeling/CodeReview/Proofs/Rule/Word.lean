import CodeReview.Proofs.Rule.Shape

/-!
Rules that ask for the words of a text. Counting the places at which a branch begins comes to the
same as counting words, and as going on behind each branch that was found, for a word leaves no room
for another one inside it.
-/

namespace CodeReview

open Text

namespace Pattern

variable {b : Option Char} {c : Char} {t : List Char} {w : String}

def opensBranch (w : List Char) : Bool :=
  ["if", "for", "while", "switch", "catch"].contains (String.ofList w)

theorem isWordAt_iff_takeWhile (hw : ∀ c ∈ w.toList, isWord c = true) :
    isWordAt w b t = true ↔ opensWord b = true ∧ t.takeWhile isWord = w.toList := by
  rw [isWordAt, Bool.and_eq_true, any_after?_iff, takeWhile_isWord_eq_iff]
  simp only [closesWord_iff]
  refine and_congr_right fun _ => exists_congr fun after => and_congr_right fun _ => ?_
  exact (and_iff_right hw).symm

theorem isWord_of_mem_branchWords :
    ∀ w ∈ branchWords, ∀ c ∈ w.toList, isWord c = true := by
  have hall : (branchWords.all fun w => w.toList.all isWord) = true := by decide +kernel
  simpa only [List.all_eq_true] using hall

theorem startsAt_branchWord (b : Option Char) (t : List Char) :
    startsAt .branchWord b t = (opensWord b && opensBranch (t.takeWhile isWord)) := by
  rw [Bool.eq_iff_iff, startsAt, List.any_eq_true, Bool.and_eq_true, opensBranch,
    List.contains_iff_mem]
  constructor
  · rintro ⟨w, hw, h⟩
    obtain ⟨hb, hword⟩ := (isWordAt_iff_takeWhile (isWord_of_mem_branchWords w hw)).1 h
    rw [hword, String.ofList_toList]
    exact ⟨hb, hw⟩
  · rintro ⟨hb, hw⟩
    refine ⟨_, hw, (isWordAt_iff_takeWhile (isWord_of_mem_branchWords _ hw)).2 ⟨hb, ?_⟩⟩
    exact String.toList_ofList.symm

theorem countP_words {f : List Char → Bool} (hf : f [] = false) (t : List Char) :
    (words t).countP f = (if f (t.takeWhile isWord) then 1 else 0) + (laterWords t).countP f := by
  rw [words_eq, List.countP_append]
  by_cases hnil : t.takeWhile isWord = []
  · simp [hnil, hf]
  · simp [hnil, List.countP_cons]

theorem countAfter_branchWord (b : Option Char) (t : List Char) :
    countAfter .branchWord b t =
      (if opensWord b && opensBranch (t.takeWhile isWord) then 1 else 0) +
        (laterWords t).countP opensBranch := by
  induction t generalizing b with
  | nil =>
    have hnone : opensBranch [] = false := by decide
    simp [countAfter, hnone, laterWords]
  | cons c t ih =>
    rw [countAfter, startsAt_branchWord, ih]
    congr 1
    -- the word that begins here is counted already, and those that begin later are left
    by_cases hc : isWord c = true
    · have hb : opensWord (some c) = false := by simp [opensWord, hc]
      rw [hb, Bool.false_and, if_neg Bool.false_ne_true, Nat.zero_add, laterWords_of_isWord hc]
    · have hfree := Bool.eq_false_iff.2 hc
      have hb : opensWord (some c) = true := by simp [opensWord, hfree]
      rw [hb, Bool.true_and, laterWords_of_not_isWord hfree, countP_words (by decide)]

theorem count_branchWord (t : List Char) :
    count .branchWord t = (words t).countP opensBranch := by
  have hb : opensWord none = true := rfl
  rw [count, countAfter_branchWord, hb, Bool.true_and, countP_words (by decide)]

theorem isWordAt_iff_between {front rest : List Char} (hne : w.toList ≠ [])
    (hw : ∀ c ∈ w.toList, isWord c = true) :
    isWordAt w front.getLast? rest = true ↔
      ∃ after, rest = w.toList ++ after ∧ IsWordBetween front w.toList after := by
  rw [isWordAt_iff]
  constructor
  · rintro ⟨opened, after, hrest, closed⟩
    exact ⟨after, hrest, hne, hw, opened, closed⟩
  · rintro ⟨after, hrest, hword⟩
    exact ⟨hword.opened, after, hrest, hword.closed⟩

theorem exists_isWordAt_iff (hne : w.toList ≠ []) (hw : ∀ c ∈ w.toList, isWord c = true) :
    (∃ front rest, t = front ++ rest ∧ rest ≠ [] ∧ isWordAt w front.getLast? rest = true) ↔
      w.toList ∈ words t := by
  rw [mem_words_iff]
  simp only [isWordAt_iff_between hne hw]
  constructor
  · rintro ⟨front, _, rfl, -, after, rfl, hword⟩
    exact ⟨front, after, rfl, hword⟩
  · rintro ⟨front, after, rfl, hword⟩
    exact ⟨front, _, rfl, List.append_ne_nil_of_left_ne_nil hne after, after, rfl, hword⟩

theorem occurs_catchWord_iff : occurs .catchWord t = true ↔ "catch".toList ∈ words t := by
  have hw : ∀ c ∈ "catch".toList, isWord c = true :=
    isWord_of_mem_branchWords "catch" (by decide)
  rw [occurs_iff_exists]
  exact exists_isWordAt_iff (by decide) hw

/-- A word of the text is the name, and an opening bracket follows it, with or without white space
in between. -/
inductive HasCall (name : String) : List Char → Prop
  | intro {front gap after : List Char} (blank : IsGap gap)
      (word : IsWordBetween front name.toList (gap ++ '(' :: after)) :
      HasCall name (front ++ (name.toList ++ (gap ++ '(' :: after)))

/-- Somewhere in the text a function is told: by the word for it, by an arrow, or by a word in
front of the name of one. -/
inductive HasFunctionMark : List Char → Prop
  | word {t : List Char} (told : "function".toList ∈ words t) : HasFunctionMark t
  | arrow {front after : List Char} : HasFunctionMark (front ++ ("=>".toList ++ after))
  | naming {w : String} {front gap after : List Char} {c : Char} (named : w ∈ ["def", "func", "fn"])
      (word : IsWordBetween front w.toList (gap ++ c :: after)) (filled : gap ≠ [])
      (blank : IsGap gap) (further : isWord c = true) :
      HasFunctionMark (front ++ (w.toList ++ (gap ++ c :: after)))

theorem occurs_fetchCall_iff : occurs .fetchCall t = true ↔ HasCall "fetch" t := by
  have hall : ("fetch".toList.all isWord) = true := by decide +kernel
  have hbracket : isWord '(' = false := by decide +kernel
  rw [occurs_iff_exists]
  simp only [startsAt, isCallAt_iff]
  constructor
  · rintro ⟨front, _, rfl, -, opened, gap, after, blank, rfl⟩
    exact .intro blank ⟨by decide, List.all_eq_true.1 hall, opened,
      freeStart_gap_cons blank hbracket after⟩
  · intro h
    cases h with
    | intro blank word =>
      exact ⟨_, _, rfl, List.append_ne_nil_of_left_ne_nil (by decide) _, word.opened, _, _,
        blank, rfl⟩

theorem hasFunctionMark_of_isNamingAt {front rest : List Char}
    (hw : w ∈ ["def", "func", "fn"]) (h : isNamingAt w front.getLast? rest = true) :
    HasFunctionMark (front ++ rest) := by
  have hall : (["def", "func", "fn"].all fun w => w.toList.all isWord) = true := by decide +kernel
  have hne : ∀ w ∈ ["def", "func", "fn"], w.toList ≠ [] := by decide
  rw [List.all_eq_true] at hall
  obtain ⟨opened, gap, c, after, filled, blank, further, rfl⟩ := isNamingAt_iff.1 h
  exact .naming hw ⟨hne w hw, List.all_eq_true.1 (hall w hw), opened,
    freeStart_gap_append filled blank _⟩ filled blank further

theorem occurs_functionMark_iff : occurs .functionMark t = true ↔ HasFunctionMark t := by
  have hall : ("function".toList.all isWord) = true := by decide +kernel
  have hfunction := fun t : List Char =>
    exists_isWordAt_iff (t := t) (w := "function") (by decide) (List.all_eq_true.1 hall)
  rw [occurs_iff_exists]
  simp only [startsAt, Bool.or_eq_true]
  constructor
  -- the five ways to tell a function, in the order in which they are looked for
  · rintro ⟨front, rest, rfl, hne, (((h | h) | h) | h) | h⟩
    · exact .word ((hfunction _).1 ⟨front, rest, rfl, hne, h⟩)
    · obtain ⟨after, hafter⟩ := Option.isSome_iff_exists.1 h
      rw [after?_eq_some_iff.1 hafter]
      exact .arrow
    · exact hasFunctionMark_of_isNamingAt (by decide) h
    · exact hasFunctionMark_of_isNamingAt (by decide) h
    · exact hasFunctionMark_of_isNamingAt (by decide) h
  · intro h
    cases h with
    | word told =>
      obtain ⟨front, rest, ht, hne, h⟩ := (hfunction t).2 told
      exact ⟨front, rest, ht, hne, .inl (.inl (.inl (.inl h)))⟩
    | arrow =>
      refine ⟨_, _, rfl, List.append_ne_nil_of_left_ne_nil (by decide) _,
        .inl (.inl (.inl (.inr ?_)))⟩
      rw [startsWith, after?_append, Option.isSome_some]
    | @naming w front gap after c named word filled blank further =>
      have hnaming : isNamingAt w front.getLast? (w.toList ++ (gap ++ c :: after)) = true :=
        isNamingAt_iff.2 ⟨word.opened, gap, c, after, filled, blank, further, rfl⟩
      refine ⟨front, _, rfl, List.append_ne_nil_of_left_ne_nil word.filled _, ?_⟩
      simp only [List.mem_cons, List.not_mem_nil, or_false] at named
      obtain rfl | rfl | rfl := named
      · exact .inl (.inl (.inr hnaming))
      · exact .inl (.inr hnaming)
      · exact .inr hnaming

end Pattern

namespace Analysis

open Pattern

/-- Code is too complex where more than ten of its words open a branch and a function is told in it.
Requests have no error handling where one is called and no word of the text catches an error. -/
theorem reports_of_words (content : String) :
    ((∃ f, (ofText content).Reports .highComplexity f) ↔
      10 < (words content.toList).countP opensBranch ∧ HasFunctionMark content.toList) ∧
    ((∃ f, (ofText content).Reports .unhandledFetch f) ↔
      HasCall "fetch" content.toList ∧ "catch".toList ∉ words content.toList) := by
  constructor
  · rw [exists_reports_iff_judges rfl, Rule.judges, Bool.and_eq_true, occurs_functionMark_iff,
      decide_eq_true_iff, count_branchWord, Rule.simpleBranches]
    exact and_comm
  · rw [exists_reports_iff_judges rfl, Rule.judges, Bool.and_eq_true, occurs_fetchCall_iff,
      Bool.not_eq_true', ← Bool.not_eq_true, occurs_catchWord_iff]

end Analysis

end CodeReview
