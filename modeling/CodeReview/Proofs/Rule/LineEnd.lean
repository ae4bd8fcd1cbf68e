import CodeReview.Proofs.Rule.Mark
import CodeReview.Proofs.Text.LineEnd
import CodeReview.Review.OfSource

/-!
Line ends do not matter to the rules: a text has the same analysis with a carriage return in front
of each line feed as without. In the text as a whole a mark stands where it stood before, and no
mark begins with the new character; in a line the new character only stands at the end.
-/

namespace CodeReview

open Text

namespace Pattern

theorem any_after?_crlf {w : List Char} (hw : Unbroken w) {f : List Char → Bool}
    (hf : ∀ r, f (crlf r) = f r) (t : List Char) :
    (after? w (crlf t)).any f = (after? w t).any f := by
  rw [after?_crlf hw.1 hw.2]
  cases after? w t with
  | none => rfl
  | some r => exact hf r

theorem closesWord_crlf (t : List Char) : closesWord (crlf t) = closesWord t := by
  rw [closesWord, closesWord, any_head?_crlf (by decide)]

theorem isWordAt_crlf {w : String} (hw : Unbroken w.toList) (b : Option Char) (t : List Char) :
    isWordAt w b (crlf t) = isWordAt w b t := by
  rw [isWordAt, isWordAt, any_after?_crlf hw closesWord_crlf]

theorem isCallAt_crlf {w : String} (hw : Unbroken w.toList) (b : Option Char) (t : List Char) :
    isCallAt w b (crlf t) = isCallAt w b t := by
  have hopen : ∀ r, ((trimStart (crlf r)).head? == some '(') = ((trimStart r).head? == some '(') :=
    fun r => by
      rw [trimStart_crlf, head?_beq_some, head?_beq_some, any_head?_crlf (by decide)]
  rw [isCallAt, isCallAt, any_after?_crlf hw hopen]

theorem isNamingAt_crlf {w : String} (hw : Unbroken w.toList) (b : Option Char) (t : List Char) :
    isNamingAt w b (crlf t) = isNamingAt w b t := by
  have hname : ∀ r, ((crlf r).head?.any isBlank && (trimStart (crlf r)).head?.any isWord) =
      (r.head?.any isBlank && (trimStart r).head?.any isWord) := fun r => by
    rw [trimStart_crlf, any_head?_crlf (by decide), any_head?_crlf (by decide)]
  rw [isNamingAt, isNamingAt, any_after?_crlf hw hname]

theorem startsAt_crlf {p : Pattern} (hp : p.isOfLine = false) (b : Option Char) (t : List Char) :
    p.startsAt b (crlf t) = p.startsAt b t := by
  cases p with
  | evalCall => exact isCallAt_crlf (by decide) b t
  | passwordText =>
    simp only [startsAt, afterCI?_crlf (w := "password".toList) (by decide) (by decide)]
    cases afterCI? "password".toList t with
    | none => rfl
    | some r =>
      simp only [Option.map_some, Option.any_some, trimStart_crlf]
      cases trimStart r with
      | nil => rfl
      | cons c u =>
        by_cases hc : c = '\n'
        · subst hc
          rfl
        · by_cases heq : c = '='
          · subst heq
            rw [crlf_cons hc]
            simp only [trimStart_crlf]
            exact any_head?_crlf (by decide) _
          · simp [crlf_cons hc, heq]
  | innerHtml =>
    simp only [startsAt, startsWith, after?_crlf (w := "innerHTML".toList) (by decide) (by decide),
      Option.isSome_map]
  | varDeclaration =>
    have hspace : ∀ r : List Char, (crlf r).head?.any isBlank = r.head?.any isBlank :=
      any_head?_crlf (by decide)
    rw [startsAt, startsAt, any_after?_crlf (by decide) hspace]
  | consoleLog => exact isWordAt_crlf (by decide) b t
  | fetchCall => exact isCallAt_crlf (by decide) b t
  | catchWord => exact isWordAt_crlf (by decide) b t
  | branchWord =>
    rw [startsAt, startsAt, Bool.eq_iff_iff, List.any_eq_true, List.any_eq_true]
    refine exists_congr fun w => and_congr_right fun hw => ?_
    rw [isWordAt_crlf (unbroken_branchWords w hw)]
  | functionMark =>
    simp only [startsAt, startsWith, isWordAt_crlf (w := "function") (by decide),
      after?_crlf (w := "=>".toList) (by decide) (by decide), Option.isSome_map,
      isNamingAt_crlf (w := "def") (by decide), isNamingAt_crlf (w := "func") (by decide),
      isNamingAt_crlf (w := "fn") (by decide)]
  -- these are looked for in single lines, which end before the line feed
  | commentLine => cases hp
  | magicNumber => cases hp
  | constantDeclaration => cases hp

theorem feedsBefore?_crlf {p : Pattern} (hp : p.isOfLine = false) (n : Nat) (b : Option Char)
    (t : List Char) : p.feedsBefore? n b (crlf t) = p.feedsBefore? n b t := by
  induction t generalizing n b with
  | nil => rfl
  | cons c t ih =>
    by_cases hc : c = '\n'
    · subst hc
      have hreturn := fun b u => startsAt_break hp (c := '\r') (.inl rfl) b u
      have hfeed := fun b u => startsAt_break hp (c := '\n') (.inr rfl) b u
      simp [crlf_feed, feedsBefore?, hreturn, hfeed, ih]
    · have hhere := startsAt_crlf hp b (c :: t)
      rw [crlf_cons hc] at hhere ⊢
      simp only [feedsBefore?, hhere, ih]

theorem firstLine_crlf {p : Pattern} (hp : p.isOfLine = false) (t : List Char) :
    p.firstLine (crlf t) = p.firstLine t := by
  rw [firstLine, firstLine, feedsBefore?_crlf hp]

theorem occurs_crlf {p : Pattern} (hp : p.isOfLine = false) (t : List Char) :
    p.occurs (crlf t) = p.occurs t := by
  rw [← isSome_firstLine, ← isSome_firstLine, firstLine_crlf hp]

theorem countAfter_crlf {p : Pattern} (hp : p.isOfLine = false) (b : Option Char)
    (t : List Char) : p.countAfter b (crlf t) = p.countAfter b t := by
  induction t generalizing b with
  | nil => rfl
  | cons c t ih =>
    by_cases hc : c = '\n'
    · subst hc
      have hreturn := fun b u => startsAt_break hp (c := '\r') (.inl rfl) b u
      have hfeed := fun b u => startsAt_break hp (c := '\n') (.inr rfl) b u
      simp [crlf_feed, countAfter, hreturn, hfeed, ih]
    · have hhere := startsAt_crlf hp b (c :: t)
      rw [crlf_cons hc] at hhere ⊢
      simp only [countAfter, hhere, ih]

theorem count_crlf {p : Pattern} (hp : p.isOfLine = false) (t : List Char) :
    p.count (crlf t) = p.count t :=
  countAfter_crlf hp none t

theorem closesWord_return (t : List Char) : closesWord (t ++ ['\r']) = closesWord t := by
  cases t with
  | nil => decide
  | cons c t => rfl

theorem startsWith_return {w : List Char} (hw : '\r' ∉ w) (t : List Char) :
    startsWith w (t ++ ['\r']) = startsWith w t := by
  rw [startsWith, startsWith, after?_append_cons hw, Option.isSome_map]

theorem apply_trimStart_return {α : Type} {f : List Char → α} (hf : ∀ t, f (t ++ ['\r']) = f t)
    (t : List Char) : f (trimStart (t ++ ['\r'])) = f (trimStart t) := by
  rw [trimStart_append]
  split
  · next ht =>
    rw [ht]
    rfl
  · exact hf _

theorem any_after?_return {w : List Char} (hw : '\r' ∉ w) {f : List Char → Bool}
    (hf : ∀ t, f (t ++ ['\r']) = f t) (t : List Char) :
    (after? w (t ++ ['\r'])).any f = (after? w t).any f := by
  rw [after?_append_cons hw]
  cases after? w t with
  | none => rfl
  | some r => exact hf r

theorem isCommentStart_return (t : List Char) :
    isCommentStart (t ++ ['\r']) = isCommentStart t := by
  have hmarks : ∀ m ∈ ["//", "#", "/*", "*", "<!--"], '\r' ∉ m.toList := by decide
  rw [isCommentStart, isCommentStart, Bool.eq_iff_iff, List.any_eq_true, List.any_eq_true]
  refine exists_congr fun m => and_congr_right fun hm => ?_
  rw [startsWith_return (hmarks m hm)]

theorem any_head?_return {f : Char → Bool} (hf : f '\r' = false) (t : List Char) :
    (t ++ ['\r']).head?.any f = t.head?.any f := by
  cases t with
  | nil => simpa using hf
  | cons c t => rfl

theorem isConstantName_return (t : List Char) :
    isConstantName (t ++ ['\r']) = isConstantName t := by
  have hsign : ∀ c : Char, ('\r' == c) = false → ∀ t : List Char,
      ((trimStart (t ++ ['\r'])).head? == some c) = ((trimStart t).head? == some c) := by
    intro c hc
    refine apply_trimStart_return (f := fun t => t.head? == some c) fun t => ?_
    simp only [head?_beq_some]
    exact any_head?_return hc t
  simp only [isConstantName]
  rw [any_head?_return (by decide), dropWhile_append_cons (by decide), hsign _ (by decide),
    hsign _ (by decide)]

theorem isConstantStart_return (t : List Char) :
    isConstantStart (t ++ ['\r']) = isConstantStart t := by
  have hwords : ∀ w ∈ ["const", "final", "#define"], '\r' ∉ w.toList := by decide
  have hstatic : ∀ r : List Char,
      ((r ++ ['\r']).head?.any isBlank
          && (after? "final".toList (trimStart (r ++ ['\r']))).any closesWord) =
        (r.head?.any isBlank && (after? "final".toList (trimStart r)).any closesWord) := by
    intro r
    cases r with
    | nil => decide
    | cons c r =>
      rw [apply_trimStart_return (f := fun t => (after? "final".toList t).any closesWord)
        (any_after?_return (by decide) closesWord_return)]
      rfl
  rw [isConstantStart, isConstantStart, isConstantName_return,
    any_after?_return (by decide) hstatic]
  congr 2
  rw [Bool.eq_iff_iff, List.any_eq_true, List.any_eq_true]
  refine exists_congr fun w => and_congr_right fun hw => ?_
  rw [any_after?_return (hwords w hw) closesWord_return]

theorem skipExport_return (t : List Char) :
    isConstantStart (skipExport (t ++ ['\r'])) = isConstantStart (skipExport t) := by
  rw [skipExport, skipExport, after?_append_cons (by decide)]
  cases h : after? "export".toList t with
  | none => exact isConstantStart_return t
  | some r =>
    cases r with
    | nil =>
      rw [after?_eq_some_iff] at h
      subst h
      decide
    | cons c r =>
      have hgap : (c :: r ++ ['\r']).head?.any isBlank = (c :: r).head?.any isBlank := rfl
      simp only [Option.map_some, hgap]
      split
      · exact apply_trimStart_return isConstantStart_return (c :: r)
      · exact isConstantStart_return t

theorem isMagicNumberAt_return (b : Option Char) (t : List Char) :
    isMagicNumberAt b (t ++ ['\r']) = isMagicNumberAt b t := by
  rw [isMagicNumberAt, isMagicNumberAt, takeWhile_append_cons (by decide),
    dropWhile_append_cons (by decide), closesWord_return]

theorem occursAfter_magicNumber_return (b : Option Char) (t : List Char) :
    occursAfter .magicNumber b (t ++ ['\r']) = occursAfter .magicNumber b t := by
  induction t generalizing b with
  | nil =>
    have hempty : isMagicNumberAt b [] = false := by simp [isMagicNumberAt]
    have hreturn : isMagicNumberAt b ['\r'] = false := (isMagicNumberAt_return b []).trans hempty
    simp only [List.nil_append, occursAfter, startsAt, hreturn, Bool.or_false]
  | cons c t ih =>
    have hhere : startsAt .magicNumber b (c :: (t ++ ['\r'])) = startsAt .magicNumber b (c :: t) :=
      isMagicNumberAt_return b (c :: t)
    simp only [List.cons_append, occursAfter, hhere, ih]

end Pattern

namespace Line

open Pattern

theorem isComment_return (l : List Char) : isComment (l ++ ['\r']) = isComment l :=
  apply_trimStart_return isCommentStart_return l

theorem declaresConstant_return (l : List Char) :
    declaresConstant (l ++ ['\r']) = declaresConstant l :=
  apply_trimStart_return (f := fun t => isConstantStart (skipExport t)) skipExport_return l

theorem hasMagicNumber_return (l : List Char) :
    hasMagicNumber (l ++ ['\r']) = hasMagicNumber l := by
  rw [hasMagicNumber, hasMagicNumber, declaresConstant_return, isComment_return, occurs, occurs,
    occursAfter_magicNumber_return]

theorem afterFirstCI?_return {w : List Char} (hw : w ≠ [])
    (hreturn : Avoids w '\r') (t : List Char) :
    afterFirstCI? w (t ++ ['\r']) = (afterFirstCI? w t).map (· ++ ['\r']) := by
  induction t with
  | nil =>
    cases w with
    | nil => exact absurd rfl hw
    | cons d w => simp [afterFirstCI?, afterCI?, hreturn d List.mem_cons_self]
  | cons c t ih =>
    have hhere := afterCI?_append_cons hreturn (c :: t) []
    rw [List.cons_append] at hhere
    rw [List.cons_append, afterFirstCI?, hhere, afterFirstCI?]
    cases afterCI? w (c :: t) with
    | none => exact ih
    | some r => rfl

theorem joinsQuery_return (l : List Char) : joinsQuery (l ++ ['\r']) = joinsQuery l := by
  have hselect := afterFirstCI?_return (w := "select".toList) (by decide) (by decide)
  have hfrom := afterFirstCI?_return (w := "from".toList) (by decide) (by decide)
  have hwhere := afterFirstCI?_return (w := "where".toList) (by decide) (by decide)
  rw [joinsQuery, joinsQuery, hselect]
  cases afterFirstCI? "select".toList l with
  | none => rfl
  | some r =>
    simp only [Option.map_some, hfrom]
    cases afterFirstCI? "from".toList r with
    | none => rfl
    | some r =>
      simp only [Option.map_some, hwhere]
      cases afterFirstCI? "where".toList r with
      | none => rfl
      | some r => simp

theorem any_lines_crlf {f : List Char → Bool} (hf : ∀ l, f (l ++ ['\r']) = f l) (t : List Char) :
    (lines (crlf t)).any f = (lines t).any f := by
  have hmap := congrArg (List.any · id) (map_lines_crlf hf t)
  simpa only [List.any_map, Function.id_comp] using hmap

theorem lacksComments_congr {ls ms : List (List Char)} (h : ls.map isComment = ms.map isComment) :
    lacksComments ls = lacksComments ms := by
  have hlen : ls.length = ms.length := by simpa using congrArg List.length h
  have hcount : ls.countP isComment = ms.countP isComment := by
    simpa only [List.countP_map, Function.id_comp] using congrArg (List.countP id) h
  have hempty : ls.isEmpty = ms.isEmpty := by
    rw [Bool.eq_iff_iff, List.isEmpty_iff_length_eq_zero, List.isEmpty_iff_length_eq_zero, hlen]
  simp only [lacksComments, commentRatio, hlen, hcount, hempty]

theorem lacksComments_crlf (t : List Char) :
    lacksComments (lines (crlf t)) = lacksComments (lines t) :=
  lacksComments_congr (map_lines_crlf isComment_return t)

end Line

namespace Rule

theorem judges_crlf (r : Rule) (t : List Char) : r.judges (crlf t) = r.judges t := by
  cases r with
  | sqlConcatenation => exact Line.any_lines_crlf Line.joinsQuery_return t
  | unhandledFetch =>
    rw [judges, judges, Pattern.occurs_crlf (by rfl), Pattern.occurs_crlf (by rfl)]
  | highComplexity =>
    rw [judges, judges, Pattern.occurs_crlf (by rfl), Pattern.count_crlf (by rfl)]
  | lowCommentDensity => exact Line.lacksComments_crlf t
  | magicNumbers => exact Line.any_lines_crlf Line.hasMagicNumber_return t
  | _ => rfl

theorem find?_crlf (r : Rule) (t : List Char) : r.find? (crlf t) = r.find? t := by
  rw [find?, find?, judges_crlf]
  cases h : r.pattern? with
  | none => rfl
  | some p => simp only [Pattern.firstLine_crlf (Pattern.isOfLine_of_pattern? h)]

end Rule

namespace Analysis

theorem run_withCrlf (rules : List Rule) (content : String) :
    run rules (withCrlf content) = run rules content := by
  simp only [run, isEmpty_withCrlf, hits, toList_withCrlf, Rule.find?_crlf]

/-- A text has the same findings with a carriage return in front of each line feed, in the same
order and on the same lines, and so the same review by rules under every policy. -/
theorem ofText_withCrlf (content : String) :
    ofText (withCrlf content) = ofText content ∧
    ∀ (p : Policy) (path : String),
      p.score (ofText (withCrlf content)) = p.score (ofText content) ∧
      Review.ofAnalysis p path (ofText (withCrlf content)) =
        Review.ofAnalysis p path (ofText content) := by
  have hsame : ofText (withCrlf content) = ofText content := run_withCrlf Rule.battery content
  exact ⟨hsame, fun p path => ⟨by rw [hsame], by rw [hsame]⟩⟩

end Analysis

end CodeReview
