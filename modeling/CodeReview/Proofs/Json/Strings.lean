import CodeReview.Json.Reader
import CodeReview.Json.Writer

/-!
A string that is written is read back: what stands for a character, as it is, with an escape of its
own or as one or two UTF-16 units, is the next mark of the string it stands in.
-/

namespace CodeReview.Json

theorem hexValue?_hexDigit {n : Nat} (h : n < 16) : hexValue? (Text.hexDigit n) = some n := by
  revert n
  decide

theorem hexDigits_four (n : Nat) :
    Text.hexDigits 4 n = [Text.hexDigit (n / 16 / 16 / 16 % 16), Text.hexDigit (n / 16 / 16 % 16),
      Text.hexDigit (n / 16 % 16), Text.hexDigit (n % 16)] := rfl

theorem unit?_hexDigits {n : Nat} (h : n < 0x10000) :
    unit? (Text.hexDigit (n / 16 / 16 / 16 % 16)) (Text.hexDigit (n / 16 / 16 % 16))
      (Text.hexDigit (n / 16 % 16)) (Text.hexDigit (n % 16)) = some n := by
  have hlt : ∀ m : Nat, m % 16 < 16 := fun m => Nat.mod_lt m (by decide)
  simp only [unit?, hexValue?_hexDigit (hlt _), bind, Option.bind, pure, Option.some.injEq]
  omega

theorem pairMark_of_not_high {n : Nat} (h : isHighUnit n = false) (t : List Char) :
    pairMark n t = .char (unitChar n) t := by
  unfold pairMark
  split
  · rw [if_neg (by simp [h])]
  · rfl

theorem isHighUnit_toNat (c : Char) : isHighUnit c.toNat = false := by
  have hvalid : c.toNat < 0xD800 ∨ 0xDFFF < c.toNat ∧ c.toNat < 0x110000 := c.valid
  rw [isHighUnit, Bool.and_eq_false_iff, decide_eq_false_iff_not, decide_eq_false_iff_not]
  omega

theorem isLowUnit_toNat (c : Char) : isLowUnit c.toNat = false := by
  have hvalid : c.toNat < 0xD800 ∨ 0xDFFF < c.toNat ∧ c.toNat < 0x110000 := c.valid
  rw [isLowUnit, Bool.and_eq_false_iff, decide_eq_false_iff_not, decide_eq_false_iff_not]
  omega

theorem unitChar_toNat (c : Char) : unitChar c.toNat = c := by
  rw [unitChar, isHighUnit_toNat, isLowUnit_toNat, Bool.or_self, if_neg (by decide),
    Char.ofNat_toNat]

theorem unicodeMark_hexDigits {n : Nat} (h : n < 0x10000) (e : Char) (r : List Char) :
    unicodeMark (Text.hexDigits 4 n ++ e :: r) = pairMark n (e :: r) := by
  rw [hexDigits_four]
  simp only [List.cons_append, List.nil_append, unicodeMark, unit?_hexDigits h]

theorem unicodeMark_pair {c : Char} (h : 0x10000 ≤ c.toNat) (e : Char) (r : List Char) :
    unicodeMark (Text.hexDigits 4 (0xD800 + (c.toNat - 0x10000) / 1024) ++
      unitEscape (0xDC00 + (c.toNat - 0x10000) % 1024) ++ e :: r) = .char c (e :: r) := by
  have hvalid : c.toNat < 0xD800 ∨ 0xDFFF < c.toNat ∧ c.toNat < 0x110000 := c.valid
  have hhigh : isHighUnit (0xD800 + (c.toNat - 0x10000) / 1024) = true := by
    rw [isHighUnit, Bool.and_eq_true, decide_eq_true_eq, decide_eq_true_eq]
    omega
  have hlow : isLowUnit (0xDC00 + (c.toNat - 0x10000) % 1024) = true := by
    rw [isLowUnit, Bool.and_eq_true, decide_eq_true_eq, decide_eq_true_eq]
    omega
  have hchar : pairChar (0xD800 + (c.toNat - 0x10000) / 1024)
      (0xDC00 + (c.toNat - 0x10000) % 1024) = c := by
    have hsum : 0x10000 + (0xD800 + (c.toNat - 0x10000) / 1024 - 0xD800) * 1024 +
        (0xDC00 + (c.toNat - 0x10000) % 1024 - 0xDC00) = c.toNat := by omega
    rw [pairChar, hsum, Char.ofNat_toNat]
  rw [unitEscape, List.append_assoc, List.cons_append, List.cons_append,
    unicodeMark_hexDigits (by omega), hexDigits_four]
  simp only [List.cons_append, List.nil_append, pairMark, hhigh, if_true,
    unit?_hexDigits (by omega : 0xDC00 + (c.toNat - 0x10000) % 1024 < 0x10000), hlow, hchar]

inductive Written (c : Char) : List Char → Prop
  | short {e : Char} (notUnit : e ≠ 'u') (stands : shortEscape? e = some c) : Written c ['\\', e]
  | plain (notQuote : c ≠ '"') (notBackslash : c ≠ '\\') (notControl : ¬c.toNat < 32) :
    Written c [c]
  | unit (small : c.toNat < 0x10000) : Written c (unitEscape c.toNat)
  | pair (large : 0x10000 ≤ c.toNat) :
    Written c (unitEscape (0xD800 + (c.toNat - 0x10000) / 1024) ++
      unitEscape (0xDC00 + (c.toNat - 0x10000) % 1024))

theorem written_escapeChar (c : Char) : Written c (escapeChar c) := by
  have heq : ∀ d : Char, (c.toNat == d.toNat) = true → d = c := fun d h =>
    Char.toNat_inj.1 (beq_iff_eq.1 h).symm
  unfold escapeChar
  split
  · next h => exact .short (by decide) (by rw [beq_iff_eq.1 h]; rfl)
  split
  · next h => exact .short (by decide) (by rw [beq_iff_eq.1 h]; rfl)
  split
  · next h => exact .short (by decide) (by rw [beq_iff_eq.1 h]; rfl)
  split
  · next h => exact .short (by decide) (by rw [beq_iff_eq.1 h]; rfl)
  split
  · next h => exact .short (by decide) (by rw [beq_iff_eq.1 h]; rfl)
  split
  · next h => exact .short (by decide) (congrArg some (heq '\x08' h))
  split
  · next h => exact .short (by decide) (congrArg some (heq '\x0c' h))
  split
  · next hquote hbackslash _ _ _ _ _ h =>
    rw [Bool.and_eq_true, decide_eq_true_eq, decide_eq_true_eq] at h
    exact .plain (fun hc => hquote (beq_iff_eq.2 hc)) (fun hc => hbackslash (beq_iff_eq.2 hc))
      (Nat.not_lt.2 h.1)
  split
  · next h => exact .unit h
  · next h => exact .pair (Nat.le_of_not_lt h)

theorem mark_unitEscape (start : List Char) (n : Nat) (t : List Char) :
    mark start (unitEscape n ++ t) = unicodeMark (Text.hexDigits 4 n ++ t) := by
  rw [unitEscape, List.cons_append, List.cons_append, mark]

theorem mark_written {c : Char} {w : List Char} (h : Written c w) (start : List Char) (e : Char)
    (r : List Char) : mark start (w ++ e :: r) = .char c (e :: r) := by
  cases h with
  | short notUnit stands =>
    rw [List.cons_append, List.cons_append, List.nil_append, mark, stands]
    · exact notUnit
  | plain notQuote notBackslash notControl =>
    rw [List.cons_append, List.nil_append, mark, if_neg notControl]
    · simpa using notQuote
    · simp
    · simp [notBackslash]
    · simp [notBackslash]
  | unit small =>
    rw [mark_unitEscape, unicodeMark_hexDigits small, pairMark_of_not_high (isHighUnit_toNat c),
      unitChar_toNat]
  | pair large =>
    rw [List.append_assoc, mark_unitEscape, ← List.append_assoc, unicodeMark_pair large]

theorem mark_escapeChar (start : List Char) (c e : Char) (r : List Char) :
    mark start (escapeChar c ++ e :: r) = .char c (e :: r) :=
  mark_written (written_escapeChar c) start e r

theorem stringBody_flatMap (start s tail : List Char) :
    stringBody start (s.flatMap escapeChar ++ '"' :: tail) = .ok (s, tail) := by
  induction s with
  | nil =>
    rw [List.flatMap_nil, List.nil_append, stringBody]
    rfl
  | cons c s ih =>
    obtain ⟨e, r, hrest⟩ : ∃ e r, s.flatMap escapeChar ++ '"' :: tail = e :: r :=
      List.exists_cons_of_ne_nil (by simp)
    rw [List.flatMap_cons, List.append_assoc, hrest, stringBody]
    split
    · next heq => simp [mark_escapeChar] at heq
    · next heq =>
      rw [mark_escapeChar, Mark.char.injEq] at heq
      rw [← heq.1, ← heq.2, ← hrest, ih]
      rfl
    · next heq => simp [mark_escapeChar] at heq

theorem readString_writeString (s : String) (tail : List Char) :
    ∃ t, writeString s ++ tail = '"' :: t ∧ readString t = .ok (s, tail) := by
  refine ⟨s.toList.flatMap escapeChar ++ '"' :: tail, ?_, ?_⟩
  · simp [writeString]
  · rw [readString, stringBody_flatMap]
    simp [Except.map]

end CodeReview.Json
