import CodeReview.Proofs.Text.Start
import Mathlib.Data.List.TakeWhile

/-!
The words of a text: runs of word characters that nothing on either side continues. A word is told
by what it is or by what stands in front of it and behind it; both say the same of which words a
text has.
-/

namespace CodeReview.Text

variable {c : Char} {t w front after : List Char}

/-- The words of a text in their order, between the characters that no word is made of. -/
def words (t : List Char) : List (List Char) :=
  (t.splitOnP fun c => !isWord c).filter fun w => !w.isEmpty

def FreeEnd (t : List Char) : Prop :=
  ∀ c ∈ t.getLast?, isWord c = false

def FreeStart (t : List Char) : Prop :=
  ∀ c ∈ t.head?, isWord c = false

/-- Between the two texts `w` is a word. -/
structure IsWordBetween (front w after : List Char) : Prop where
  filled : w ≠ []
  plain : ∀ c ∈ w, isWord c = true
  opened : FreeEnd front
  closed : FreeStart after

theorem freeEnd_nil : FreeEnd [] := by simp [FreeEnd]

theorem freeEnd_singleton : FreeEnd [c] ↔ isWord c = false := by
  simp [FreeEnd]

theorem freeEnd_cons (h : t ≠ []) : FreeEnd (c :: t) ↔ FreeEnd t := by
  rw [FreeEnd, FreeEnd, List.getLast?_cons_of_ne_nil h]

theorem freeStart_cons : FreeStart (c :: t) ↔ isWord c = false := by
  simp [FreeStart]

def blankCodes : List Nat :=
  List.range' 9 5 ++ (List.range' 28 5 ++ (List.range' 0x2000 11
    ++ [0x85, 0xA0, 0x1680, 0x2028, 0x2029, 0x202F, 0x205F, 0x3000]))

theorem toNat_mem_blankCodes (h : isBlank c = true) : c.toNat ∈ blankCodes := by
  simp only [isBlank, Bool.or_eq_true, Bool.and_eq_true, decide_eq_true_eq, beq_iff_eq] at h
  simp only [blankCodes, List.mem_append, List.mem_range'_1, List.mem_cons, List.not_mem_nil,
    or_false]
  omega

theorem isWord_of_isBlank (h : isBlank c = true) : isWord c = false := by
  have hall : ∀ n ∈ blankCodes, isWord (Char.ofNat n) = false := by decide +kernel
  have hc := hall c.toNat (toNat_mem_blankCodes h)
  rwa [Char.ofNat_toNat] at hc

theorem isBlank_of_isWord (h : isWord c = true) : isBlank c = false := by
  refine Bool.eq_false_iff.2 fun hblank => ?_
  rw [isWord_of_isBlank hblank] at h
  cases h

theorem freeStart_gap_append {gap : List Char} (hne : gap ≠ []) (h : IsGap gap)
    (t : List Char) : FreeStart (gap ++ t) := by
  obtain ⟨c, gap, rfl⟩ := List.exists_cons_of_ne_nil hne
  exact freeStart_cons.2 (isWord_of_isBlank (h c List.mem_cons_self))

theorem freeStart_gap_cons {gap : List Char} (hgap : IsGap gap) (hc : isWord c = false)
    (t : List Char) : FreeStart (gap ++ c :: t) := by
  by_cases hnil : gap = []
  · rw [hnil, List.nil_append]
    exact freeStart_cons.2 hc
  · exact freeStart_gap_append hnil hgap _

theorem takeWhile_isWord_eq_iff :
    t.takeWhile isWord = w ↔
      ∃ after, t = w ++ after ∧ (∀ c ∈ w, isWord c = true) ∧ FreeStart after := by
  constructor
  · rintro rfl
    refine ⟨t.dropWhile isWord, List.takeWhile_append_dropWhile.symm,
      List.all_eq_true.1 List.all_takeWhile, fun c hc => ?_⟩
    have hstop := List.head?_dropWhile_not isWord t
    rwa [Option.mem_def.1 hc] at hstop
  · rintro ⟨after, rfl, hplain, hclosed⟩
    exact (takeWhile_append_of_stop hplain hclosed).1

def laterWords (t : List Char) : List (List Char) :=
  (t.splitOnP fun c => !isWord c).tail.filter fun w => !w.isEmpty

theorem head?_splitOnP (t : List Char) :
    (t.splitOnP fun c => !isWord c).head? = some (t.takeWhile isWord) := by
  induction t with
  | nil => rfl
  | cons c t ih =>
    rw [List.splitOnP_cons_eq_if_modifyHead]
    by_cases hc : isWord c = true
    · rw [hc, Bool.not_true, if_neg Bool.false_ne_true, List.head?_modifyHead, ih,
        List.takeWhile_cons_of_pos hc]
      rfl
    · rw [Bool.eq_false_iff.2 hc, Bool.not_false, if_pos rfl, List.takeWhile_cons_of_neg hc]
      rfl

theorem words_eq (t : List Char) :
    words t = (if t.takeWhile isWord = [] then [] else [t.takeWhile isWord]) ++ laterWords t := by
  obtain ⟨rest, hrest⟩ := List.head?_eq_some_iff.1 (head?_splitOnP t)
  rw [words, laterWords, hrest, List.filter_cons, List.tail_cons]
  by_cases hnil : t.takeWhile isWord = []
  · simp [hnil]
  · simp [hnil]

theorem laterWords_of_isWord (hc : isWord c = true) (t : List Char) :
    laterWords (c :: t) = laterWords t := by
  rw [laterWords, List.splitOnP_cons_eq_if_modifyHead, hc, Bool.not_true,
    if_neg Bool.false_ne_true, List.tail_modifyHead, laterWords]

theorem laterWords_of_not_isWord (hc : isWord c = false) (t : List Char) :
    laterWords (c :: t) = words t := by
  rw [laterWords, List.splitOnP_cons_eq_if_modifyHead, hc, Bool.not_false, if_pos rfl,
    List.tail_cons, words]

theorem mem_words_iff_or :
    w ∈ words t ↔ (∃ after, t = w ++ after ∧ IsWordBetween [] w after) ∨ w ∈ laterWords t := by
  rw [words_eq, List.mem_append]
  refine or_congr_left ?_
  constructor
  · intro h
    split at h
    · cases h
    · next hne =>
      rw [List.mem_singleton] at h
      obtain ⟨after, ht, hplain, hclosed⟩ := takeWhile_isWord_eq_iff.1 h.symm
      exact ⟨after, ht, h ▸ hne, hplain, freeEnd_nil, hclosed⟩
  · rintro ⟨after, ht, hword⟩
    have hfirst := takeWhile_isWord_eq_iff.2 ⟨after, ht, hword.plain, hword.closed⟩
    rw [hfirst, if_neg hword.filled]
    exact List.mem_singleton_self w

theorem mem_laterWords_iff :
    w ∈ laterWords t ↔
      ∃ front after, t = front ++ (w ++ after) ∧ front ≠ [] ∧ IsWordBetween front w after := by
  induction t with
  | nil =>
    refine iff_of_false List.not_mem_nil ?_
    rintro ⟨front, after, ht, hfront, -⟩
    exact hfront (List.append_eq_nil_iff.1 ht.symm).1
  | cons c t ih =>
    -- a word begins behind `c` only if `c` belongs to none
    by_cases hc : isWord c = true
    · rw [laterWords_of_isWord hc, ih]
      constructor
      · rintro ⟨front, after, rfl, hfront, hword⟩
        exact ⟨c :: front, after, rfl, List.cons_ne_nil c front, hword.filled, hword.plain,
          (freeEnd_cons hfront).2 hword.opened, hword.closed⟩
      · rintro ⟨front, after, ht, hfront, hword⟩
        obtain ⟨d, front, rfl⟩ := List.exists_cons_of_ne_nil hfront
        obtain ⟨rfl, rfl⟩ := List.cons.inj ht
        have hrest : front ≠ [] := by
          rintro rfl
          rw [freeEnd_singleton.1 hword.opened] at hc
          cases hc
        exact ⟨front, after, rfl, hrest, hword.filled, hword.plain,
          (freeEnd_cons hrest).1 hword.opened, hword.closed⟩
    · have hfree := Bool.eq_false_iff.2 hc
      rw [laterWords_of_not_isWord hfree, mem_words_iff_or, ih]
      constructor
      · rintro (⟨after, rfl, hword⟩ | ⟨front, after, rfl, hfront, hword⟩)
        · exact ⟨[c], after, rfl, List.cons_ne_nil c [], hword.filled, hword.plain,
            freeEnd_singleton.2 hfree, hword.closed⟩
        · exact ⟨c :: front, after, rfl, List.cons_ne_nil c front, hword.filled, hword.plain,
            (freeEnd_cons hfront).2 hword.opened, hword.closed⟩
      · rintro ⟨front, after, ht, hfront, hword⟩
        obtain ⟨d, front, rfl⟩ := List.exists_cons_of_ne_nil hfront
        obtain ⟨rfl, rfl⟩ := List.cons.inj ht
        by_cases hrest : front = []
        · subst hrest
          exact .inl ⟨after, rfl, hword.filled, hword.plain, freeEnd_nil, hword.closed⟩
        · exact .inr ⟨front, after, rfl, hrest, hword.filled, hword.plain,
            (freeEnd_cons hrest).1 hword.opened, hword.closed⟩

theorem mem_words_iff :
    w ∈ words t ↔ ∃ front after, t = front ++ (w ++ after) ∧ IsWordBetween front w after := by
  rw [mem_words_iff_or, mem_laterWords_iff]
  constructor
  · rintro (⟨after, ht, hword⟩ | ⟨front, after, ht, -, hword⟩)
    · exact ⟨[], after, ht, hword⟩
    · exact ⟨front, after, ht, hword⟩
  · rintro ⟨front, after, ht, hword⟩
    by_cases hfront : front = []
    · subst hfront
      exact .inl ⟨after, ht, hword⟩
    · exact .inr ⟨front, after, ht, hfront, hword⟩

example : words "if_x(1) \t if".toList = ["if_x".toList, "1".toList, "if".toList] := by
  decide +kernel

end CodeReview.Text
