import CodeReview.Unicode.Letters
import CodeReview.Unicode.Unprintable

/-!
The classes of characters that the rules, the readers and the writers ask about. Below U+0080
every class is given by a formula, so a question about an ASCII character is decided at once;
above it the tables of Unicode 14 answer.
-/

namespace CodeReview.Text

open Unicode

/-- The white space that trimming removes and that a rule allows between two marks. -/
def isBlank (c : Char) : Bool :=
  let n := c.toNat
  (9 ≤ n && n ≤ 13) || (28 ≤ n && n ≤ 32) || n == 0x85 || n == 0xA0 || n == 0x1680
    || (0x2000 ≤ n && n ≤ 0x200A) || n == 0x2028 || n == 0x2029 || n == 0x202F || n == 0x205F
    || n == 0x3000

def isLineBreak (c : Char) : Bool :=
  let n := c.toNat
  (10 ≤ n && n ≤ 13) || (28 ≤ n && n ≤ 30) || n == 0x85 || n == 0x2028 || n == 0x2029

theorem isBlank_of_isLineBreak {c : Char} (h : isLineBreak c = true) : isBlank c = true := by
  simp only [isLineBreak, isBlank, Bool.or_eq_true, Bool.and_eq_true, decide_eq_true_eq,
    beq_iff_eq] at h ⊢
  omega

def digitValue? (c : Char) : Option Nat :=
  let n := c.toNat
  if n < 128 then if 48 ≤ n && n ≤ 57 then some (n - 48) else none
  else (findRun digitTable n).map fun row => (n - row.first) % 10

def isDigit (c : Char) : Bool :=
  (digitValue? c).isSome

def isLetter (c : Char) : Bool :=
  if c.toNat < 128 then c.isAlpha else inTable letterTable c.toNat

/-- The characters that words are made of: letters, digits, other numbers and the underscore. -/
def isWord (c : Char) : Bool :=
  c == '_' || isLetter c || isDigit c || inTable otherNumberTable c.toNat

theorem isWord_of_isDigit {c : Char} (h : isDigit c = true) : isWord c = true := by
  simp [isWord, h]

def isPrintable (c : Char) : Bool :=
  if c.toNat < 128 then 32 ≤ c.toNat && c.toNat < 127 else !inTable unprintableTable c.toNat

theorem digitValue?_lt {c : Char} {v : Nat} (h : digitValue? c = some v) : v < 10 := by
  simp only [digitValue?] at h
  split at h
  · split at h
    · rename_i hc
      simp only [Bool.and_eq_true, decide_eq_true_eq] at hc
      simp only [Option.some.injEq] at h
      omega
    · simp at h
  · simp only [Option.map_eq_some_iff] at h
    obtain ⟨row, -, rfl⟩ := h
    exact Nat.mod_lt _ (by decide)

end CodeReview.Text
