import CodeReview.Proofs.Rule.Continued
import CodeReview.Proofs.Rule.Shape
import CodeReview.Proofs.Text.Letters
import CodeReview.Proofs.Text.LineEnd

/-!
Findings with a line. For each of the rules that tell a line it is said here what they look for,
without a search: an occurrence is a way to cut the text in two. Such a rule has a finding exactly
where there is an occurrence, and its line is that of the start of the earliest one.
-/

namespace CodeReview

open Text

namespace Text

/-- What follows `front` in the text begins on the `n`th line: in front of it are the lines above,
each with its line feed, and the first part of the line. -/
def IsOnLine (t front : List Char) (n : Nat) : Prop :=
  ∃ above head tail below, lines t = above ++ (head ++ tail) :: below ∧
    front = above.flatMap (· ++ ['\n']) ++ head ∧ n = above.length + 1

theorem IsOnLine.le_length {t front : List Char} {n : Nat} (h : IsOnLine t front n) :
    n ≤ (lines t).length := by
  obtain ⟨above, head, tail, below, hlines, -, rfl⟩ := h
  rw [hlines, List.length_append, List.length_cons]
  omega

theorem isOnLine_append (front rest : List Char) :
    IsOnLine (front ++ rest) front (front.count '\n' + 1) := by
  induction front with
  | nil =>
    obtain ⟨l, ls, hlines⟩ := List.exists_cons_of_ne_nil (List.splitOn_ne_nil '\n' rest)
    exact ⟨[], [], l, ls, hlines, rfl, rfl⟩
  | cons c front ih =>
    obtain ⟨above, head, tail, below, hlines, hfront, hn⟩ := ih
    by_cases hc : c = '\n'
    · subst hc
      refine ⟨[] :: above, head, tail, below, ?_, ?_, ?_⟩
      · rw [List.cons_append, lines_feed, hlines, List.cons_append]
      · rw [hfront]
        rfl
      · rw [List.count_cons_self, hn, List.length_cons]
    · rw [List.count_cons_of_ne hc, hn]
      cases above with
      | nil =>
        refine ⟨[], c :: head, tail, below, ?_, by rw [hfront]; rfl, rfl⟩
        rw [List.cons_append, lines_cons hc, hlines]
        rfl
      | cons l above =>
        refine ⟨(c :: l) :: above, head, tail, below, ?_, by rw [hfront]; rfl, rfl⟩
        rw [List.cons_append, lines_cons hc, hlines]
        rfl

end Text

namespace Rule

variable {r : Rule} {p : Pattern} {front rest t : List Char}

/-- What a rule with a line looks for, by the text in front of it and the text from its first
character on. -/
inductive Occurrence : Rule → (front rest : List Char) → Prop
  | evalUsage {front gap after : List Char} (opened : FreeEnd front) (blank : IsGap gap) :
      Occurrence .evalUsage front ("eval".toList ++ (gap ++ '(' :: after))
  | hardcodedPassword {front word gap gap' after : List Char} {quote : Char}
      (spelled : SpellsCI "password".toList word) (blank : IsGap gap) (blank' : IsGap gap')
      (quoted : quote = '\'' ∨ quote = '"') :
      Occurrence .hardcodedPassword front (word ++ (gap ++ '=' :: (gap' ++ quote :: after)))
  | innerHtml {front after : List Char} :
      Occurrence .innerHtml front ("innerHTML".toList ++ after)
  | varDeclaration {front after : List Char} {space : Char} (opened : FreeEnd front)
      (blank : isBlank space = true) :
      Occurrence .varDeclaration front ("var".toList ++ space :: after)
  | consoleLog {front after : List Char} (opened : FreeEnd front) (closed : FreeStart after) :
      Occurrence .consoleLog front ("console.log".toList ++ after)

/-- The text is cut where the earliest occurrence begins. -/
structure IsFirstIn (r : Rule) (t front rest : List Char) : Prop where
  whole : t = front ++ rest
  there : r.Occurrence front rest
  earliest : ∀ front' rest', t = front' ++ rest' → r.Occurrence front' rest' →
    front.length ≤ front'.length

theorem isQuote_iff {c : Char} : Pattern.isQuote c = true ↔ c = '\'' ∨ c = '"' := by
  rw [Pattern.isQuote, Bool.or_eq_true, beq_iff_eq, beq_iff_eq]

theorem isBlank_of_quote {c : Char} (h : c = '\'' ∨ c = '"') : isBlank c = false := by
  rcases h with rfl | rfl <;> decide

theorem occurrence_password_iff :
    Occurrence .hardcodedPassword front rest ↔
      Pattern.startsAt .passwordText front.getLast? rest = true := by
  have hletters : ∀ l ∈ "password".toList, l.isLower = true ∧ l ≠ 'i' := by simp
  have hequals : isBlank '=' = false := by decide
  rw [Pattern.startsAt_passwordText_iff]
  simp only [afterCI?_eq_some_iff hletters, trimStart_eq_cons_iff hequals, Option.any_eq_true]
  constructor
  · intro h
    cases h with
    | hardcodedPassword spelled blank blank' quoted =>
      refine ⟨_, _, ⟨_, spelled, rfl⟩, ⟨_, blank, rfl⟩, _, ?_, isQuote_iff.2 quoted⟩
      exact (head?_trimStart_eq_some_iff (isBlank_of_quote quoted)).2 ⟨_, _, blank', rfl⟩
  · rintro ⟨_, v, ⟨word, spelled, rfl⟩, ⟨gap, blank, rfl⟩, quote, hhead, hquote⟩
    have quoted := isQuote_iff.1 hquote
    obtain ⟨gap', after, blank', rfl⟩ :=
      (head?_trimStart_eq_some_iff (isBlank_of_quote quoted)).1 hhead
    exact .hardcodedPassword spelled blank blank' quoted

theorem occurrence_iff (hp : r.pattern? = some p) :
    r.Occurrence front rest ↔ p.startsAt front.getLast? rest = true := by
  cases r with
  | evalUsage =>
    cases hp
    rw [Pattern.startsAt, Pattern.isCallAt_iff]
    constructor
    · intro h
      cases h with
      | evalUsage opened blank => exact ⟨opened, _, _, blank, rfl⟩
    · rintro ⟨opened, gap, after, blank, rfl⟩
      exact .evalUsage opened blank
  | hardcodedPassword =>
    cases hp
    exact occurrence_password_iff
  | innerHtml =>
    cases hp
    rw [Pattern.startsAt, startsWith, Option.isSome_iff_exists]
    simp only [after?_eq_some_iff]
    constructor
    · intro h
      cases h with
      | innerHtml => exact ⟨_, rfl⟩
    · rintro ⟨after, rfl⟩
      exact .innerHtml
  | varDeclaration =>
    cases hp
    rw [Pattern.startsAt, Bool.and_eq_true, Pattern.opensWord_iff, Pattern.any_after?_iff]
    simp only [Option.any_eq_true, List.head?_eq_some_iff]
    constructor
    · intro h
      cases h with
      | varDeclaration opened blank => exact ⟨opened, _, rfl, _, ⟨_, rfl⟩, blank⟩
    · rintro ⟨opened, _, rfl, space, ⟨after, rfl⟩, blank⟩
      exact .varDeclaration opened blank
  | consoleLog =>
    cases hp
    rw [Pattern.startsAt, Pattern.isWordAt_iff]
    constructor
    · intro h
      cases h with
      | consoleLog opened closed => exact ⟨opened, _, rfl, closed⟩
    · rintro ⟨opened, after, rfl, closed⟩
      exact .consoleLog opened closed
  -- the other rules look for no single mark
  | sqlConcatenation => cases hp
  | unhandledFetch => cases hp
  | highComplexity => cases hp
  | lowCommentDensity => cases hp
  | magicNumbers => cases hp

theorem startsAt_nil (hp : r.pattern? = some p) (b : Option Char) : p.startsAt b [] = false := by
  cases r <;> cases hp <;>
    simp [Pattern.startsAt, Pattern.isCallAt, Pattern.isWordAt, startsWith, after?, afterCI?]

theorem ne_nil_of_occurrence (hp : r.pattern? = some p) (h : r.Occurrence front rest) :
    rest ≠ [] := by
  rintro rfl
  rw [occurrence_iff hp, startsAt_nil hp] at h
  cases h

theorem isSome_find?_iff (hp : r.pattern? = some p) :
    (r.find? t).isSome = true ↔ ∃ front rest, t = front ++ rest ∧ r.Occurrence front rest := by
  rw [find?, hp]
  simp only [Option.isSome_map, Pattern.isSome_firstLine, Pattern.occurs_iff_exists,
    ← occurrence_iff hp]
  refine exists_congr fun front => exists_congr fun rest => and_congr_right fun _ => ?_
  exact and_iff_right_of_imp (ne_nil_of_occurrence hp)

theorem isFirstIn_of_firstAt (hp : r.pattern? = some p) {i : Nat} (h : p.FirstAt none t i) :
    r.IsFirstIn t (t.take i) (t.drop i) := by
  obtain ⟨⟨hi, hthere⟩, hnone⟩ := h
  rw [Option.or_none] at hthere
  refine ⟨(List.take_append_drop i t).symm, (occurrence_iff hp).2 hthere, ?_⟩
  intro front' rest' ht hoccurs
  have hbegins : p.BeginsAt none t front'.length := by
    rw [ht]
    exact Pattern.beginsAt_length_iff.2
      ⟨ne_nil_of_occurrence hp hoccurs, (occurrence_iff hp).1 hoccurs⟩
  rw [List.length_take_of_le (Nat.le_of_lt hi)]
  exact Nat.le_of_not_lt fun hlt => hnone _ hlt hbegins

theorem located_of_find? (hp : r.pattern? = some p) {f : Finding} (h : r.find? t = some f) :
    ∃ n front rest, f.line = some n ∧ r.IsFirstIn t front rest ∧ IsOnLine t front n.val := by
  rw [find?, hp] at h
  obtain ⟨n, hn, rfl⟩ := Option.map_eq_some_iff.1 h
  obtain ⟨i, hfirst, hline⟩ := Pattern.firstLine_eq_some_iff.1 hn
  refine ⟨n, _, _, rfl, isFirstIn_of_firstAt hp hfirst, ?_⟩
  have honline := isOnLine_append (t.take i) (t.drop i)
  rwa [List.take_append_drop, ← hline] at honline

end Rule

namespace Analysis

/-- A rule with a line has a finding exactly where what it looks for occurs in the text. The finding
has a line then, which is one of the text: the line on which the earliest occurrence begins, also
where the occurrence goes on over further lines. -/
theorem located_findings {r : Rule}
    (hr : r ∈ [Rule.evalUsage, .hardcodedPassword, .innerHtml, .varDeclaration, .consoleLog])
    (content : String) :
    ((∃ f, (ofText content).Reports r f) ↔
      ∃ front rest, content.toList = front ++ rest ∧ r.Occurrence front rest) ∧
    ∀ f, (ofText content).Reports r f →
      ∃ n, f.line = some n ∧ 1 ≤ n.val ∧ n.val ≤ (lines content.toList).length ∧
        ∃ front rest, r.IsFirstIn content.toList front rest ∧
          IsOnLine content.toList front n.val := by
  have hlocated : ∀ r ∈ [Rule.evalUsage, .hardcodedPassword, .innerHtml, .varDeclaration,
      .consoleLog], r.pattern?.isSome = true := by decide
  obtain ⟨p, hp⟩ := Option.isSome_iff_exists.1 (hlocated r hr)
  refine ⟨exists_reports_iff.trans (Rule.isSome_find?_iff hp), fun f hf => ?_⟩
  obtain ⟨-, hfind⟩ := reports_ofText_iff.1 hf
  obtain ⟨n, front, rest, hn, hfirst, hline⟩ := Rule.located_of_find? hp hfind
  exact ⟨n, hn, n.property, hline.le_length, front, rest, hfirst, hline⟩

theorem located_eval_over_lines :
    Rule.evalUsage ∈
      [Rule.evalUsage, .hardcodedPassword, .innerHtml, .varDeclaration, .consoleLog] ∧
    (ofText "retrieval(x)\n// eval\ny = eval\n\t(code)").Reports .evalUsage
      (Rule.findingAt .evalUsage (some ⟨3, Nat.succ_pos 2⟩)) ∧
    ∃ front rest,
      Rule.evalUsage.IsFirstIn "retrieval(x)\n// eval\ny = eval\n\t(code)".toList front rest ∧
      IsOnLine "retrieval(x)\n// eval\ny = eval\n\t(code)".toList front 3 := by
  have hr : Rule.evalUsage ∈
      [Rule.evalUsage, .hardcodedPassword, .innerHtml, .varDeclaration, .consoleLog] := by decide
  have hf : (ofText "retrieval(x)\n// eval\ny = eval\n\t(code)").Reports .evalUsage
      (Rule.findingAt .evalUsage (some ⟨3, Nat.succ_pos 2⟩)) :=
    reports_ofText_iff.2 ⟨by decide, by decide +kernel⟩
  obtain ⟨n, hn, -, -, front, rest, hfirst, hline⟩ :=
    (located_findings hr "retrieval(x)\n// eval\ny = eval\n\t(code)").2 _ hf
  cases hn
  exact ⟨hr, hf, front, rest, hfirst, hline⟩

end Analysis

end CodeReview
