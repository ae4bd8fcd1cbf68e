import CodeReview.Proofs.Text.Line
import CodeReview.Proofs.Text.Start
import Mathlib.Data.List.Forall2

/-!
Line ends. A text may have a carriage return in front of each line feed; as both are white space,
the words at its start and what follows them are the same with and without them, and each line is
the same up to a carriage return at its end.
-/

namespace CodeReview.Text

/-- The text with a carriage return in front of every line feed. -/
def crlf (t : List Char) : List Char :=
  t.flatMap fun c => if c = '\n' then ['\r', '\n'] else [c]

def withCrlf (s : String) : String :=
  String.ofList (crlf s.toList)

theorem crlf_feed (t : List Char) : crlf ('\n' :: t) = '\r' :: '\n' :: crlf t := by
  simp [crlf]

theorem crlf_cons {c : Char} (hc : c ≠ '\n') (t : List Char) : crlf (c :: t) = c :: crlf t := by
  simp [crlf, hc]

theorem crlf_eq_nil_iff {t : List Char} : crlf t = [] ↔ t = [] := by
  cases t with
  | nil => simp [crlf]
  | cons c t =>
    by_cases hc : c = '\n'
    · subst hc
      simp [crlf_feed]
    · simp [crlf_cons hc]

theorem toList_withCrlf (s : String) : (withCrlf s).toList = crlf s.toList :=
  String.toList_ofList

theorem isEmpty_withCrlf (s : String) : (withCrlf s).isEmpty = s.isEmpty := by
  rw [Bool.eq_iff_iff, String.isEmpty_iff, String.isEmpty_iff, withCrlf, String.ofList_eq_empty_iff,
    crlf_eq_nil_iff, String.toList_eq_nil_iff]

theorem any_head?_crlf {f : Char → Bool} (hf : f '\r' = f '\n') (t : List Char) :
    (crlf t).head?.any f = t.head?.any f := by
  cases t with
  | nil => rfl
  | cons c t =>
    by_cases hc : c = '\n'
    · subst hc
      simpa [crlf_feed] using hf
    · simp [crlf_cons hc]

theorem trimStart_crlf (t : List Char) : trimStart (crlf t) = crlf (trimStart t) := by
  induction t with
  | nil => rfl
  | cons c t ih =>
    by_cases hc : c = '\n'
    · subst hc
      have hreturn : isBlank '\r' = true := by decide
      have hfeed : isBlank '\n' = true := by decide
      simpa [trimStart, crlf_feed, List.dropWhile_cons, hreturn, hfeed] using ih
    · rw [crlf_cons hc]
      by_cases hb : isBlank c = true
      · simpa [trimStart, List.dropWhile_cons, hb] using ih
      · simp [trimStart, hb, crlf_cons hc]

theorem after?_crlf {w : List Char} (hreturn : '\r' ∉ w) (hfeed : '\n' ∉ w) (t : List Char) :
    after? w (crlf t) = (after? w t).map crlf := by
  induction w generalizing t with
  | nil => rfl
  | cons d w ih =>
    rw [List.mem_cons, not_or] at hreturn hfeed
    cases t with
    | nil => rfl
    | cons c t =>
      by_cases hc : c = '\n'
      · subst hc
        simp [crlf_feed, after?, Ne.symm hreturn.1, Ne.symm hfeed.1]
      · rw [crlf_cons hc]
        simp only [after?]
        split
        · exact ih hreturn.2 hfeed.2 t
        · rfl

theorem afterCI?_crlf {w : List Char} (hreturn : Avoids w '\r') (hfeed : Avoids w '\n')
    (t : List Char) : afterCI? w (crlf t) = (afterCI? w t).map crlf := by
  induction w generalizing t with
  | nil => rfl
  | cons d w ih =>
    rw [avoids_cons] at hreturn hfeed
    cases t with
    | nil => rfl
    | cons c t =>
      by_cases hc : c = '\n'
      · subst hc
        simp [crlf_feed, afterCI?, hreturn.1, hfeed.1]
      · rw [crlf_cons hc]
        simp only [afterCI?]
        split
        · exact ih hreturn.2 hfeed.2 t
        · rfl

def EndsAlike (l m : List Char) : Prop :=
  m = l ∨ m = l ++ ['\r']

theorem EndsAlike.cons {l m : List Char} (h : EndsAlike l m) (c : Char) :
    EndsAlike (c :: l) (c :: m) := by
  rcases h with rfl | rfl
  · exact .inl rfl
  · exact .inr rfl

theorem lines_crlf (t : List Char) : List.Forall₂ EndsAlike (lines t) (lines (crlf t)) := by
  induction t with
  | nil => exact .cons (.inl rfl) .nil
  | cons c t ih =>
    by_cases hc : c = '\n'
    · subst hc
      rw [crlf_feed, lines_feed, lines_cons (by decide), lines_feed]
      exact .cons (.inr rfl) ih
    · rw [crlf_cons hc, lines_cons hc, lines_cons hc]
      generalize lines t = ls, lines (crlf t) = ms at ih
      cases ih with
      | nil => exact .nil
      | cons hhead htail => exact .cons (hhead.cons c) htail

theorem map_lines_crlf {α : Type} {f : List Char → α} (hf : ∀ l, f (l ++ ['\r']) = f l)
    (t : List Char) : (lines (crlf t)).map f = (lines t).map f := by
  have hall : ∀ {ls ms : List (List Char)}, List.Forall₂ EndsAlike ls ms → ms.map f = ls.map f := by
    intro ls ms h
    induction h with
    | nil => rfl
    | cons hhead _ ih =>
      rcases hhead with rfl | rfl
      · rw [List.map_cons, List.map_cons, ih]
      · rw [List.map_cons, List.map_cons, ih, hf]
  exact hall (lines_crlf t)

end CodeReview.Text
