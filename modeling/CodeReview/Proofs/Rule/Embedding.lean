import CodeReview.Proofs.Rule.Continued
import CodeReview.Proofs.Rule.Occurrence
import CodeReview.Proofs.Rule.Finding

/-!
Texts inside larger texts. A rule that looks for something in a text finds it also where lines come
before and behind the text, on the line where it stands then, unless there is something earlier.
-/

namespace CodeReview

open Text

namespace Pattern

variable {p : Pattern} {b d : Option Char} {a c t : List Char} {i : Nat}

theorem beginsAt_congr (hp : p.isOfLine = false) (h : opensWord b = opensWord d) :
    p.BeginsAt b t i ↔ p.BeginsAt d t i := by
  have hbefore : opensWord ((t.take i).getLast?.or b) = opensWord ((t.take i).getLast?.or d) := by
    cases (t.take i).getLast? with
    | none => exact h
    | some e => rfl
  rw [BeginsAt, BeginsAt, startsAt_congr hp hbefore]

theorem firstAt_congr (hp : p.isOfLine = false) (h : opensWord b = opensWord d) :
    p.FirstAt b t i ↔ p.FirstAt d t i := by
  simp only [FirstAt, beginsAt_congr hp h]

theorem beginsAt_feed_iff (h : i < c.length) (s : List Char) :
    p.BeginsAt b (c ++ '\n' :: s) i ↔
      p.startsAt ((c.take i).getLast?.or b) (c.drop i ++ '\n' :: s) = true := by
  rw [BeginsAt, List.take_append_of_le_length (Nat.le_of_lt h),
    List.drop_append_of_le_length (Nat.le_of_lt h), List.length_append]
  exact and_iff_right (Nat.lt_of_lt_of_le h (Nat.le_add_right _ _))

theorem beginsAt_feed (hp : p.isOfLine = false) (h : p.BeginsAt b c i) (s : List Char) :
    p.BeginsAt b (c ++ '\n' :: s) i :=
  (beginsAt_feed_iff h.1 s).2 (startsAt_feed hp h.2 s)

theorem firstAt_feed {r : Rule} (hp : r.pattern? = some p) (h : p.FirstAt b c i)
    (s : List Char) : p.FirstAt b (c ++ '\n' :: s) i := by
  obtain ⟨hbegins, hnone⟩ := h
  refine ⟨beginsAt_feed (isOfLine_of_pattern? hp) hbegins s, fun j hj hbefore => ?_⟩
  have hlen : j < c.length := Nat.lt_trans hj hbegins.1
  -- an earlier mark that only the lines behind complete would take in the one at `i`
  rcases startsAt_of_feed hp ((beginsAt_feed_iff hlen s).1 hbefore) with hthere | hroom
  · exact hnone j hj ⟨hlen, hthere⟩
  · have hdrop : c.drop i = (c.drop j).drop (i - j) := by
      rw [List.drop_drop]
      congr 1
      omega
    have hfalse := hroom ((c.take i).getLast?.or b) (c.drop i)
      (hdrop ▸ (List.drop_sublist _ _).subset)
    rw [hbegins.2] at hfalse
    cases hfalse

theorem beginsAt_behind_iff :
    p.BeginsAt b (a ++ '\n' :: t) (a.length + 1 + i) ↔ p.BeginsAt (some '\n') t i := by
  have hplace := beginsAt_append (p := p) (b := b) (a := a ++ ['\n']) (t := t) (i := i)
  simpa using hplace

theorem not_beginsAt_feed (hp : p.isOfLine = false) :
    ¬p.BeginsAt b (a ++ '\n' :: t) a.length := by
  have hplace := beginsAt_append (p := p) (b := b) (a := a) (t := '\n' :: t) (i := 0)
  rw [Nat.add_zero, beginsAt_zero, startsAt_break hp (.inr rfl)] at hplace
  exact fun h => Bool.false_ne_true (hplace.1 h)

theorem opensWord_feed : opensWord none = opensWord (some '\n') := by decide

theorem count_take_behind (h : i ≤ c.length) (s : List Char) :
    ((a ++ '\n' :: (c ++ '\n' :: s)).take (a.length + 1 + i)).count '\n' =
      (c.take i).count '\n' + a.count '\n' + 1 := by
  have htake : (a ++ '\n' :: (c ++ '\n' :: s)).take (a.length + 1 + i) = a ++ '\n' :: c.take i := by
    rw [Nat.add_assoc, List.take_length_add_append, Nat.add_comm 1 i, List.take_succ_cons,
      List.take_append_of_le_length h]
  rw [htake, List.count_append, List.count_cons_self]
  omega

theorem firstLine_embedded {r : Rule} (hp : r.pattern? = some p) {n : LineNumber}
    (h : p.firstLine c = some n) (a s : List Char) :
    ∃ m, p.firstLine (a ++ '\n' :: (c ++ '\n' :: s)) = some m ∧
      m.val ≤ n.val + a.count '\n' + 1 ∧
      ((∀ i < a.length, ¬p.BeginsAt none (a ++ '\n' :: (c ++ '\n' :: s)) i) →
        m.val = n.val + a.count '\n' + 1) := by
  obtain ⟨i, hi, hn⟩ := firstLine_eq_some_iff.1 h
  have hline := isOfLine_of_pattern? hp
  have hfirst : p.FirstAt (some '\n') (c ++ '\n' :: s) i :=
    firstAt_feed hp ((firstAt_congr hline opensWord_feed).1 hi) s
  have hthere : p.BeginsAt none (a ++ '\n' :: (c ++ '\n' :: s)) (a.length + 1 + i) :=
    beginsAt_behind_iff.2 hfirst.1
  have hoccurs := occurs_iff.2 ⟨_, hthere⟩
  rw [← isSome_firstLine, Option.isSome_iff_exists] at hoccurs
  obtain ⟨m, hm⟩ := hoccurs
  obtain ⟨k, hk, hmk⟩ := firstLine_eq_some_iff.1 hm
  -- the first occurrence in the whole text is no later than the one that is known
  have hle : k ≤ a.length + 1 + i := Nat.le_of_not_lt fun hlt => hk.2 _ hlt hthere
  have hcount := count_take_behind (a := a) (Nat.le_of_lt hi.1.1) s
  refine ⟨m, hm, ?_, fun hnone => ?_⟩
  · have hmono :=
      (List.take_sublist_take_left (l := a ++ '\n' :: (c ++ '\n' :: s)) hle).count_le '\n'
    omega
  -- nothing in front of the part, so it is that one
  · have hbehind : a.length < k := by
      rcases Nat.lt_trichotomy k a.length with hlt | rfl | hlt
      · exact absurd hk.1 (hnone k hlt)
      · exact absurd hk.1 (not_beginsAt_feed hline)
      · exact hlt
    obtain ⟨j, rfl⟩ : ∃ j, k = a.length + 1 + j := ⟨k - (a.length + 1), by omega⟩
    have hj : ¬j < i := fun hlt => hfirst.2 j hlt (beginsAt_behind_iff.1 hk.1)
    have hij : j = i := by omega
    rw [hij] at hmk
    omega

theorem occurs_embedded (hp : p.isOfLine = false) (h : p.occurs c = true) (a s : List Char) :
    p.occurs (a ++ '\n' :: (c ++ '\n' :: s)) = true := by
  obtain ⟨i, hi⟩ := occurs_iff.1 h
  exact occurs_iff.2 ⟨_, beginsAt_behind_iff.2
    (beginsAt_feed hp ((beginsAt_congr hp opensWord_feed).1 hi) s)⟩

theorem countAfter_congr (hp : p.isOfLine = false) (h : opensWord b = opensWord d)
    (t : List Char) : p.countAfter b t = p.countAfter d t := by
  cases t with
  | nil => rfl
  | cons e t => rw [countAfter, countAfter, startsAt_congr hp h]

theorem countAfter_le_append (a t : List Char) (b : Option Char) :
    p.countAfter (a.getLast?.or b) t ≤ p.countAfter b (a ++ t) := by
  induction a generalizing b with
  | nil => exact Nat.le_refl _
  | cons e a ih =>
    rw [getLast?_cons_or, List.cons_append, countAfter]
    exact Nat.le_trans (ih (some e)) (Nat.le_add_left _ _)

theorem countAfter_le_feed (hp : p.isOfLine = false) (b : Option Char) (c s : List Char) :
    p.countAfter b c ≤ p.countAfter b (c ++ '\n' :: s) := by
  induction c generalizing b with
  | nil => exact Nat.zero_le _
  | cons e c ih =>
    rw [List.cons_append, countAfter, countAfter]
    refine Nat.add_le_add ?_ (ih (some e))
    by_cases h : p.startsAt b (e :: c) = true
    · have hfeed := startsAt_feed hp h s
      rw [List.cons_append] at hfeed
      rw [if_pos h, if_pos hfeed]
    · rw [if_neg h]
      exact Nat.zero_le _

theorem count_le_embedded (hp : p.isOfLine = false) (a c s : List Char) :
    p.count c ≤ p.count (a ++ '\n' :: (c ++ '\n' :: s)) := by
  have hbefore := countAfter_le_append (p := p) (a ++ ['\n']) (c ++ '\n' :: s) none
  rw [List.getLast?_concat, List.append_assoc, List.singleton_append] at hbefore
  calc p.countAfter none c
      = p.countAfter (some '\n') c := countAfter_congr hp opensWord_feed c
    _ ≤ p.countAfter (some '\n') (c ++ '\n' :: s) := countAfter_le_feed hp _ c s
    _ ≤ p.countAfter none (a ++ '\n' :: (c ++ '\n' :: s)) := hbefore

end Pattern

theorem any_lines_embedded {f : List Char → Bool} {c : List Char} (h : (lines c).any f = true)
    (a s : List Char) : (lines (a ++ '\n' :: (c ++ '\n' :: s))).any f = true := by
  rw [lines, List.splitOn_append_cons_self, List.splitOn_append_cons_self, List.any_append,
    List.any_append, Bool.or_eq_true, Bool.or_eq_true]
  exact .inr (.inl h)

namespace Rule

theorem judges_embedded {r : Rule} (hfetch : r ≠ .unhandledFetch)
    (hdensity : r ≠ .lowCommentDensity) {c : List Char} (h : r.judges c = true)
    (a s : List Char) : r.judges (a ++ '\n' :: (c ++ '\n' :: s)) = true := by
  cases r with
  | sqlConcatenation => exact any_lines_embedded h a s
  | highComplexity =>
    simp only [judges, Bool.and_eq_true, decide_eq_true_eq] at h ⊢
    exact ⟨Pattern.occurs_embedded (by rfl) h.1 a s,
      Nat.lt_of_lt_of_le h.2 (Pattern.count_le_embedded (by rfl) a c s)⟩
  | magicNumbers => exact any_lines_embedded h a s
  | unhandledFetch => exact absurd rfl hfetch
  | lowCommentDensity => exact absurd rfl hdensity
  | evalUsage => cases h
  | hardcodedPassword => cases h
  | innerHtml => cases h
  | varDeclaration => cases h
  | consoleLog => cases h

theorem find?_embedded {r : Rule} (hfetch : r ≠ .unhandledFetch)
    (hdensity : r ≠ .lowCommentDensity) {c : List Char} {f : Finding} (h : r.find? c = some f)
    (a s : List Char) : ∃ g, r.find? (a ++ '\n' :: (c ++ '\n' :: s)) = some g ∧
      g.severity = f.severity ∧ ∀ n, f.line = some n → ∃ m, g.line = some m ∧
        m.val ≤ n.val + a.count '\n' + 1 ∧
        ∀ p, r.pattern? = some p →
          (∀ i < a.length, ¬p.BeginsAt none (a ++ '\n' :: (c ++ '\n' :: s)) i) →
          m.val = n.val + a.count '\n' + 1 := by
  rw [find?] at h
  cases hp : r.pattern? with
  | none =>
    rw [hp] at h
    by_cases hjudges : r.judges c = true
    · simp only [hjudges, if_true, Option.some.injEq] at h
      subst h
      refine ⟨r.findingAt none, ?_, rfl, fun n hn => ?_⟩
      · simp only [find?, hp, judges_embedded hfetch hdensity hjudges, if_true]
      · cases hn
    · simp [hjudges] at h
  | some p =>
    rw [hp] at h
    obtain ⟨n, hn, rfl⟩ := Option.map_eq_some_iff.1 h
    obtain ⟨m, hm, hle, heq⟩ := Pattern.firstLine_embedded hp hn a s
    refine ⟨r.findingAt (some m), ?_, rfl, fun k hk => ⟨m, rfl, ?_⟩⟩
    · simp only [find?, hp, hm, Option.map_some]
    · cases hk
      refine ⟨hle, fun q hq => ?_⟩
      cases hq
      exact heq

end Rule

namespace Analysis

theorem toList_embedded (p c s : String) :
    (p ++ "\n" ++ c ++ "\n" ++ s).toList =
      p.toList ++ '\n' :: (c.toList ++ '\n' :: s.toList) := by
  simp [String.toList_append]

/-- Lines before and behind a text hide no finding but those on missing error handling and missing
comments. A finding on a line is then on the line where it stands in the larger text, or on an
earlier one if its mark begins earlier there. -/
theorem reports_embedded {r : Rule} (hfetch : r ≠ .unhandledFetch)
    (hdensity : r ≠ .lowCommentDensity) (p c s : String) {f : Finding}
    (hf : (ofText c).Reports r f) :
    ∃ g, (ofText (p ++ "\n" ++ c ++ "\n" ++ s)).Reports r g ∧ g.severity = f.severity ∧
      ∀ n, f.line = some n → ∃ m, g.line = some m ∧
        m.val ≤ n.val + p.toList.count '\n' + 1 ∧
        ∀ q, r.pattern? = some q →
          (∀ i < p.toList.length,
            ¬q.BeginsAt none (p ++ "\n" ++ c ++ "\n" ++ s).toList i) →
          m.val = n.val + p.toList.count '\n' + 1 := by
  obtain ⟨-, hfind⟩ := reports_ofText_iff.1 hf
  obtain ⟨g, hg, hseverity, hline⟩ := Rule.find?_embedded hfetch hdensity hfind p.toList s.toList
  have hne : p ++ "\n" ++ c ++ "\n" ++ s ≠ "" := by
    rw [Ne, ← String.toList_eq_nil_iff, toList_embedded]
    simp
  rw [← toList_embedded] at hg hline
  exact ⟨g, reports_ofText_iff.2 ⟨hne, hg⟩, hseverity, hline⟩

theorem reports_password_embedded :
    (ofText "x = 1\npassword\n= 'y'").Reports .hardcodedPassword
      (Rule.findingAt .hardcodedPassword (some ⟨2, by decide⟩)) ∧
    ∃ g, (ofText ("// password" ++ "\n" ++ "x = 1\npassword\n= 'y'" ++ "\n" ++ "end")).Reports
        .hardcodedPassword g ∧
      g.severity = .critical ∧ g.line = some ⟨3, by decide⟩ := by
  have hf : (ofText "x = 1\npassword\n= 'y'").Reports .hardcodedPassword
      (Rule.findingAt .hardcodedPassword (some ⟨2, by decide⟩)) :=
    reports_ofText_iff.2 ⟨by decide, by decide⟩
  obtain ⟨g, hg, hseverity, hline⟩ :=
    reports_embedded (by decide) (by decide) "// password" _ "end" hf
  obtain ⟨m, hm, -, heq⟩ := hline _ rfl
  have hfirst : ∀ i < "// password".toList.length, ¬Pattern.BeginsAt .passwordText none
      ("// password" ++ "\n" ++ "x = 1\npassword\n= 'y'" ++ "\n" ++ "end").toList i := by
    decide
  have hm3 : m = ⟨3, by decide⟩ := Subtype.ext (heq _ rfl hfirst)
  exact ⟨hf, g, hg, hseverity, by rw [hm, hm3]⟩

end Analysis

end CodeReview
