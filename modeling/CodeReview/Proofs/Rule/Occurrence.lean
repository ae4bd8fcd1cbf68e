import CodeReview.Rule.Pattern
import Mathlib.Data.List.Basic

/-!
Occurrences of a mark, by their places. A mark occurs in a text where it begins at some place, and
the line that is reported for it is that of the first place.
-/

namespace CodeReview.Pattern

def BeginsAt (p : Pattern) (b : Option Char) (t : List Char) (i : Nat) : Prop :=
  i < t.length ∧ p.startsAt ((t.take i).getLast?.or b) (t.drop i) = true

instance (p : Pattern) (b : Option Char) (t : List Char) (i : Nat) :
    Decidable (p.BeginsAt b t i) :=
  inferInstanceAs (Decidable (_ ∧ _))

variable {p : Pattern} {b : Option Char}

theorem not_beginsAt_nil (i : Nat) : ¬p.BeginsAt b [] i := fun h => Nat.not_lt_zero i h.1

theorem beginsAt_zero {c : Char} {t : List Char} :
    p.BeginsAt b (c :: t) 0 ↔ p.startsAt b (c :: t) = true := by
  simp [BeginsAt]

theorem getLast?_cons_or (c : Char) (t : List Char) (b : Option Char) :
    (c :: t).getLast?.or b = t.getLast?.or (some c) := by
  cases t with
  | nil => rfl
  | cons d u => simp [List.getLast?_cons]

theorem beginsAt_succ {c : Char} {t : List Char} {i : Nat} :
    p.BeginsAt b (c :: t) (i + 1) ↔ p.BeginsAt (some c) t i := by
  rw [BeginsAt, BeginsAt, List.take_succ_cons, List.drop_succ_cons, getLast?_cons_or,
    List.length_cons, Nat.add_lt_add_iff_right]

theorem beginsAt_append {a t : List Char} {i : Nat} :
    p.BeginsAt b (a ++ t) (a.length + i) ↔ p.BeginsAt (a.getLast?.or b) t i := by
  induction a generalizing b with
  | nil => simp
  | cons c a ih =>
    have hplace : (c :: a).length + i = a.length + i + 1 := by simp only [List.length_cons]; omega
    rw [hplace, List.cons_append, beginsAt_succ, ih, getLast?_cons_or]

theorem occursAfter_iff {t : List Char} : p.occursAfter b t = true ↔ ∃ i, p.BeginsAt b t i := by
  induction t generalizing b with
  | nil => simp [occursAfter, not_beginsAt_nil]
  | cons c t ih =>
    rw [occursAfter, Bool.or_eq_true, ih]
    constructor
    · rintro (h | ⟨i, h⟩)
      · exact ⟨0, beginsAt_zero.2 h⟩
      · exact ⟨i + 1, beginsAt_succ.2 h⟩
    · rintro ⟨i, h⟩
      cases i with
      | zero => exact .inl (beginsAt_zero.1 h)
      | succ i => exact .inr ⟨i, beginsAt_succ.1 h⟩

theorem occurs_iff {t : List Char} : p.occurs t = true ↔ ∃ i, p.BeginsAt none t i :=
  occursAfter_iff

/-- The place is the first one at which the mark begins. -/
def FirstAt (p : Pattern) (b : Option Char) (t : List Char) (i : Nat) : Prop :=
  p.BeginsAt b t i ∧ ∀ j < i, ¬p.BeginsAt b t j

theorem firstAt_zero {c : Char} {t : List Char} :
    p.FirstAt b (c :: t) 0 ↔ p.startsAt b (c :: t) = true := by
  simp [FirstAt, beginsAt_zero]

theorem firstAt_succ {c : Char} {t : List Char} {i : Nat} :
    p.FirstAt b (c :: t) (i + 1) ↔ p.startsAt b (c :: t) = false ∧ p.FirstAt (some c) t i := by
  rw [FirstAt, FirstAt, beginsAt_succ, ← Bool.not_eq_true, ← beginsAt_zero]
  constructor
  · rintro ⟨h, hall⟩
    exact ⟨hall 0 (Nat.succ_pos i), h, fun j hj hb =>
      hall (j + 1) (Nat.succ_lt_succ hj) (beginsAt_succ.2 hb)⟩
  · rintro ⟨h0, h, hall⟩
    refine ⟨h, fun j hj hb => ?_⟩
    cases j with
    | zero => exact h0 hb
    | succ j => exact hall j (Nat.lt_of_succ_lt_succ hj) (beginsAt_succ.1 hb)

theorem feedsBefore?_eq_some_iff {n m : Nat} {t : List Char} :
    p.feedsBefore? n b t = some m ↔
      ∃ i, p.FirstAt b t i ∧ m = n + (t.take i).count '\n' := by
  -- by the places of the text; the count of line feeds and the character in front go along
  induction t generalizing n b with
  | nil => simp [feedsBefore?, FirstAt, not_beginsAt_nil]
  | cons c t ih =>
    rw [feedsBefore?]
    by_cases h : p.startsAt b (c :: t) = true
    · rw [if_pos h, Option.some.injEq]
      constructor
      · rintro rfl
        exact ⟨0, firstAt_zero.2 h, by simp⟩
      · rintro ⟨i, hi, rfl⟩
        cases i with
        | zero => simp
        | succ i =>
          rw [firstAt_succ, h] at hi
          exact absurd hi.1 Bool.noConfusion
    · have hcount : ∀ i, (if c = '\n' then n + 1 else n) + (t.take i).count '\n' =
          n + ((c :: t).take (i + 1)).count '\n' := by
        intro i
        rw [List.take_succ_cons]
        by_cases hc : c = '\n'
        · rw [if_pos hc, hc, List.count_cons_self]
          omega
        · rw [if_neg hc, List.count_cons_of_ne hc]
      rw [if_neg h, ih]
      constructor
      · rintro ⟨i, hi, rfl⟩
        exact ⟨i + 1, firstAt_succ.2 ⟨Bool.eq_false_iff.2 h, hi⟩, hcount i⟩
      · rintro ⟨i, hi, rfl⟩
        cases i with
        | zero => exact absurd (firstAt_zero.1 hi) h
        | succ i => exact ⟨i, (firstAt_succ.1 hi).2, (hcount i).symm⟩

theorem firstLine_eq_some_iff {t : List Char} {n : LineNumber} :
    p.firstLine t = some n ↔
      ∃ i, p.FirstAt none t i ∧ n.val = (t.take i).count '\n' + 1 := by
  rw [firstLine, Option.map_eq_some_iff]
  constructor
  · rintro ⟨m, hm, rfl⟩
    obtain ⟨i, hi, rfl⟩ := feedsBefore?_eq_some_iff.1 hm
    exact ⟨i, hi, by simp⟩
  · rintro ⟨i, hi, hn⟩
    refine ⟨(t.take i).count '\n', feedsBefore?_eq_some_iff.2 ⟨i, hi, by simp⟩, ?_⟩
    exact Subtype.ext hn.symm

end CodeReview.Pattern
