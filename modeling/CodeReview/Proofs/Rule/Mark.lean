import CodeReview.Proofs.Text.Start
import CodeReview.Rule.Battery

/-!
Marks that rules look for in a whole text. Each of them begins with a word, and none with a line
break. The marks that are looked for in one line at a time are left out here.
-/

namespace CodeReview

open Text

namespace Pattern

def isOfLine : Pattern → Bool
  | .commentLine | .magicNumber | .constantDeclaration => true
  | _ => false

theorem isOfLine_of_pattern? {r : Rule} {p : Pattern} (h : r.pattern? = some p) :
    p.isOfLine = false := by
  cases r <;> cases h <;> rfl

theorem unbroken_branchWords : ∀ w ∈ branchWords, Unbroken w.toList := by decide

theorem startsAt_break {p : Pattern} (hp : p.isOfLine = false) {c : Char}
    (hc : c = '\r' ∨ c = '\n') (b : Option Char) (t : List Char) :
    p.startsAt b (c :: t) = false := by
  have hnone : ∀ w : List Char, w ≠ [] → Unbroken w → after? w (c :: t) = none :=
    fun w hw hunbroken => after?_break hw hunbroken hc t
  cases p with
  | evalCall => rw [startsAt, isCallAt, hnone _ (by decide) (by decide), Option.any_none,
      Bool.and_false]
  | passwordText => rcases hc with rfl | rfl <;> rfl
  | innerHtml => rw [startsAt, startsWith, hnone _ (by decide) (by decide), Option.isSome_none]
  | varDeclaration => rw [startsAt, hnone _ (by decide) (by decide), Option.any_none,
      Bool.and_false]
  | consoleLog => rw [startsAt, isWordAt, hnone _ (by decide) (by decide), Option.any_none,
      Bool.and_false]
  | fetchCall => rw [startsAt, isCallAt, hnone _ (by decide) (by decide), Option.any_none,
      Bool.and_false]
  | catchWord => rw [startsAt, isWordAt, hnone _ (by decide) (by decide), Option.any_none,
      Bool.and_false]
  | branchWord =>
    refine List.any_eq_false.2 fun w hw => ?_
    have hne : ∀ w ∈ branchWords, w.toList ≠ [] := by decide
    rw [isWordAt, hnone _ (hne w hw) (unbroken_branchWords w hw), Option.any_none, Bool.and_false]
    exact Bool.false_ne_true
  | functionMark =>
    rw [startsAt, isWordAt, startsWith, isNamingAt, isNamingAt, isNamingAt,
      hnone "function".toList (by decide) (by decide), hnone "=>".toList (by decide) (by decide),
      hnone "def".toList (by decide) (by decide), hnone "func".toList (by decide) (by decide),
      hnone "fn".toList (by decide) (by decide)]
    simp only [Option.any_none, Option.isSome_none, Bool.and_false, Bool.or_self]
  | commentLine => cases hp
  | magicNumber => cases hp
  | constantDeclaration => cases hp

end Pattern

end CodeReview
