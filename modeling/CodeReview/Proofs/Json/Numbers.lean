import CodeReview.Json.Reader
import CodeReview.Json.Writer
import CodeReview.Proofs.Text.Start

/-!
An integer that is written is read back where something else than a number stands behind it, unless
it has more digits than an integer may have.
-/

namespace CodeReview.Json

theorem numberOf_toDigits (n : Nat) : numberOf (Nat.toDigits 10 n) = n := by
  have hvalue := Nat.ofDigitChars_toDigits (b := 10) (n := n) (by decide) (by decide)
  rw [Nat.ofDigitChars] at hvalue
  rw [numberOf, NumberNotation.valueOf, List.foldl_map]
  exact hvalue

theorem digitChar_ne_zero : ∀ n < 10, 0 < n → n.digitChar ≠ '0' := by
  decide

theorem exists_digit_toDigits {n : Nat} (h : 0 < n) :
    ∃ c cs, Nat.toDigits 10 n = c :: cs ∧ c ≠ '0' := by
  induction n using Nat.strongRecOn with
  | ind n ih =>
    rw [Nat.toDigits_eq_if (by decide)]
    split
    · next hsmall =>
      exact ⟨_, _, rfl, digitChar_ne_zero n hsmall h⟩
    · next hlarge =>
      obtain ⟨c, cs, hdigits, hc⟩ := ih (n / 10) (by omega) (by omega)
      exact ⟨c, cs ++ [(n % 10).digitChar], by rw [hdigits, List.cons_append], hc⟩

def EndsNumber (t : List Char) : Prop :=
  ∀ c ∈ t.head?, c.isDigit = false ∧ c ≠ '.' ∧ c ≠ 'e' ∧ c ≠ 'E'

theorem EndsNumber.digitsOf_append {t ds : List Char} (h : EndsNumber t)
    (hds : ∀ c ∈ ds, c.isDigit = true) : digitsOf (ds ++ t) = (ds, t) := by
  obtain ⟨htake, hdrop⟩ := Text.takeWhile_append_of_stop hds fun c hc => (h c hc).1
  rw [digitsOf, htake, hdrop]

theorem EndsNumber.readFraction {t : List Char} (h : EndsNumber t) :
    readFraction t = ([], t) := by
  unfold Json.readFraction
  split
  · next r _ => exact absurd rfl (h '.' rfl).2.1
  · rfl

theorem EndsNumber.readExponent {t : List Char} (h : EndsNumber t) :
    readExponent t = (none, t) := by
  cases t with
  | nil => rfl
  | cons c t =>
    obtain ⟨-, -, he, hE⟩ := h c rfl
    rw [Json.readExponent, if_neg (by simp [he, hE])]

theorem readWhole_toDigits (n : Nat) {t : List Char} (h : EndsNumber t) :
    readWhole (Nat.toDigits 10 n ++ t) = (Nat.toDigits 10 n, t) := by
  obtain rfl | hn := Nat.eq_zero_or_pos n
  · rfl
  · obtain ⟨c, cs, hdigits, hc⟩ := exists_digit_toDigits hn
    have hall : ∀ d ∈ c :: cs, d.isDigit = true := fun d hd =>
      Nat.isDigit_of_mem_toDigits (b := 10) (n := n) (by decide) (by decide) (hdigits ▸ hd)
    rw [hdigits, List.cons_append, readWhole, ← List.cons_append, h.digitsOf_append hall]
    exact fun _ heq => hc (List.cons.inj heq).1

/-- An integer that is written with more digits than one may have. -/
def IsLong (i : Int) : Prop :=
  NumberNotation.maxDigits < (Nat.toDigits 10 i.natAbs).length

theorem not_isLong_of_lt {i : Int} (h : i.natAbs < 1000) : ¬IsLong i := by
  have hlen : (Nat.toDigits 10 i.natAbs).length ≤ 3 :=
    (Nat.length_toDigits_le_iff (by decide) (by decide)).2 h
  rw [IsLong, NumberNotation.maxDigits]
  omega

theorem readNumber_toDigits (negative : Bool) (start : List Char) (n : Nat) {t : List Char}
    (h : EndsNumber t) :
    readNumber negative start (Nat.toDigits 10 n ++ t) =
      if NumberNotation.maxDigits < (Nat.toDigits 10 n).length then
        refuse (.longInteger (Nat.toDigits 10 n).length) start
      else .ok (.int (if negative then -(n : Int) else n), t) := by
  rw [readNumber, readWhole_toDigits n h]
  split
  · next heq => exact absurd (congrArg Prod.fst heq) Nat.toDigits_ne_nil
  · next heq =>
    cases heq
    simp only [h.readFraction, h.readExponent, numberOf_toDigits, List.isEmpty_nil,
      Option.isNone_none, Bool.and_self, if_true]

theorem exists_toDigits_eq_cons (n : Nat) :
    ∃ c cs, Nat.toDigits 10 n = c :: cs ∧ c.isDigit = true := by
  obtain ⟨c, cs, hdigits⟩ := List.exists_cons_of_ne_nil (Nat.toDigits_ne_nil (n := n) (b := 10))
  refine ⟨c, cs, hdigits, Nat.isDigit_of_mem_toDigits (b := 10) (n := n) (by decide) (by decide) ?_⟩
  rw [hdigits]
  exact List.mem_cons_self

theorem readScalar_toDigits (n : Nat) (t : List Char) :
    readScalar (Nat.toDigits 10 n ++ t) =
      readNumber false (Nat.toDigits 10 n ++ t) (Nat.toDigits 10 n ++ t) := by
  obtain ⟨c, cs, hdigits, hc⟩ := exists_toDigits_eq_cons n
  rw [hdigits, List.cons_append]
  unfold readScalar
  split
  case h_7 => rfl
  all_goals
    next heq =>
      rw [(List.cons.inj heq).1] at hc
      exact absurd hc (by decide)

theorem readScalar_minus_toDigits (n : Nat) (t : List Char) :
    readScalar ('-' :: (Nat.toDigits 10 n ++ t)) =
      readNumber true ('-' :: (Nat.toDigits 10 n ++ t)) (Nat.toDigits 10 n ++ t) := by
  obtain ⟨c, cs, hdigits, hc⟩ := exists_toDigits_eq_cons n
  have hword : Text.after? "-Infinity".toList ('-' :: (Nat.toDigits 10 n ++ t)) = none := by
    have hne : 'I' ≠ c := by
      rintro rfl
      exact absurd hc (by decide)
    rw [hdigits]
    simp [Text.after?, hne]
  simp only [readScalar, hword]

theorem exists_head_writeInt (i : Int) :
    ∃ c cs, writeInt i = c :: cs ∧ (c = '-' ∨ c.isDigit = true) := by
  rw [writeInt]
  split
  · exact ⟨_, _, rfl, .inl rfl⟩
  · obtain ⟨c, cs, hdigits, hc⟩ := exists_toDigits_eq_cons i.natAbs
    exact ⟨c, cs, hdigits, .inr hc⟩

theorem readScalar_writeInt (i : Int) {t : List Char} (h : EndsNumber t) :
    readScalar (writeInt i ++ t) =
      if NumberNotation.maxDigits < (Nat.toDigits 10 i.natAbs).length then
        refuse (.longInteger (Nat.toDigits 10 i.natAbs).length) (writeInt i ++ t)
      else .ok (.int i, t) := by
  rw [writeInt]
  by_cases hi : i < 0
  · have hvalue : -(i.natAbs : Int) = i := by omega
    rw [if_pos hi, List.singleton_append, List.cons_append, readScalar_minus_toDigits,
      readNumber_toDigits _ _ _ h, if_pos rfl, hvalue]
  · have hvalue : (i.natAbs : Int) = i := by omega
    rw [if_neg hi, List.nil_append, readScalar_toDigits, readNumber_toDigits _ _ _ h,
      if_neg Bool.false_ne_true, hvalue]

end CodeReview.Json
