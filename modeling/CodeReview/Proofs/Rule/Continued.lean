import CodeReview.Proofs.Rule.Mark
import Mathlib.Data.List.TakeWhile

/-!
Marks in texts that go on with further lines. A mark that stands at the start of a text stands there
also where lines follow. A mark that only these lines complete reaches to the end of the text and
leaves no room in it for another one of its kind.
-/

namespace CodeReview

open Text

namespace Pattern

theorem any_after?_append {w t u : List Char} {f : List Char → Bool}
    (hf : ∀ r, f r = true → f (r ++ u) = true) (h : (after? w t).any f = true) :
    (after? w (t ++ u)).any f = true := by
  obtain ⟨r, hr, hfr⟩ := (Option.any_eq_true _ _).1 h
  rw [after?_eq_some_iff] at hr
  rw [hr, List.append_assoc, after?_append]
  exact hf r hfr

theorem closesWord_feed (t u : List Char) : closesWord (t ++ '\n' :: u) = closesWord t := by
  cases t with
  | nil => exact (by decide : closesWord ['\n'] = closesWord [])
  | cons c t => rfl

theorem any_head?_append {f : Char → Bool} {t : List Char} (h : t.head?.any f = true)
    (u : List Char) : (t ++ u).head?.any f = true := by
  cases t with
  | nil => cases h
  | cons c t => exact h

theorem any_head?_trimStart_append {f : Char → Bool} {t : List Char}
    (h : (trimStart t).head?.any f = true) (u : List Char) :
    (trimStart (t ++ u)).head?.any f = true := by
  have hne : trimStart t ≠ [] := by
    intro hnil
    rw [hnil] at h
    cases h
  rw [trimStart_append, if_neg hne]
  exact any_head?_append h u

theorem isWordAt_feed {w : String} {b : Option Char} {t : List Char}
    (h : isWordAt w b t = true) (u : List Char) : isWordAt w b (t ++ '\n' :: u) = true := by
  rw [isWordAt, Bool.and_eq_true] at h ⊢
  refine ⟨h.1, any_after?_append (fun r hr => ?_) h.2⟩
  rw [closesWord_feed, hr]

theorem isCallAt_append {w : String} {b : Option Char} {t : List Char}
    (h : isCallAt w b t = true) (u : List Char) : isCallAt w b (t ++ u) = true := by
  rw [isCallAt, Bool.and_eq_true] at h ⊢
  refine ⟨h.1, any_after?_append (fun r hr => ?_) h.2⟩
  rw [head?_beq_some] at hr ⊢
  exact any_head?_trimStart_append hr u

theorem isNamingAt_append {w : String} {b : Option Char} {t : List Char}
    (h : isNamingAt w b t = true) (u : List Char) : isNamingAt w b (t ++ u) = true := by
  rw [isNamingAt, Bool.and_eq_true] at h ⊢
  refine ⟨h.1, any_after?_append (fun r hr => ?_) h.2⟩
  rw [Bool.and_eq_true] at hr ⊢
  exact ⟨any_head?_append hr.1 u, any_head?_trimStart_append hr.2 u⟩

def isQuote (c : Char) : Bool :=
  c == '\'' || c == '"'

theorem startsAt_passwordText_iff {b : Option Char} {t : List Char} :
    startsAt .passwordText b t = true ↔ ∃ r v, afterCI? "password".toList t = some r ∧
      trimStart r = '=' :: v ∧ (trimStart v).head?.any isQuote = true := by
  rw [startsAt, Option.any_eq_true]
  constructor
  · rintro ⟨r, hr, h⟩
    split at h
    · next v hv => exact ⟨r, v, hr, hv, h⟩
    · cases h
  · rintro ⟨r, v, hr, hv, h⟩
    refine ⟨r, hr, ?_⟩
    rw [hv]
    exact h

theorem afterCI?_append {w t r : List Char} (h : afterCI? w t = some r) (u : List Char) :
    afterCI? w (t ++ u) = some (r ++ u) := by
  induction w generalizing t with
  | nil =>
    cases h
    rfl
  | cons d w ih =>
    cases t with
    | nil => cases h
    | cons c t =>
      simp only [List.cons_append, afterCI?] at h ⊢
      split
      · next hd => exact ih (by simpa [hd] using h)
      · next hd => simp [hd] at h

theorem startsAt_passwordText_append {b : Option Char} {t : List Char}
    (h : startsAt .passwordText b t = true) (u : List Char) :
    startsAt .passwordText b (t ++ u) = true := by
  obtain ⟨r, v, hr, hv, hquote⟩ := startsAt_passwordText_iff.1 h
  refine startsAt_passwordText_iff.2 ⟨r ++ u, v ++ u, afterCI?_append hr u, ?_,
    any_head?_trimStart_append hquote u⟩
  rw [trimStart_append, if_neg (by rw [hv]; exact List.cons_ne_nil _ _), hv, List.cons_append]

theorem startsWith_append {w t : List Char} (h : startsWith w t = true) (u : List Char) :
    startsWith w (t ++ u) = true := by
  obtain ⟨r, hr⟩ := Option.isSome_iff_exists.1 h
  rw [after?_eq_some_iff] at hr
  rw [hr, List.append_assoc, startsWith, after?_append, Option.isSome_some]

theorem startsAt_feed {p : Pattern} (hp : p.isOfLine = false) {b : Option Char} {t : List Char}
    (h : p.startsAt b t = true) (u : List Char) : p.startsAt b (t ++ '\n' :: u) = true := by
  cases p with
  | evalCall => exact isCallAt_append h _
  | passwordText => exact startsAt_passwordText_append h _
  | innerHtml => exact startsWith_append h _
  | varDeclaration =>
    rw [startsAt, Bool.and_eq_true] at h ⊢
    exact ⟨h.1, any_after?_append (fun r hr => any_head?_append hr _) h.2⟩
  | consoleLog => exact isWordAt_feed h u
  | fetchCall => exact isCallAt_append h _
  | catchWord => exact isWordAt_feed h u
  | branchWord =>
    rw [startsAt, List.any_eq_true] at h ⊢
    obtain ⟨w, hw, h⟩ := h
    exact ⟨w, hw, isWordAt_feed h u⟩
  | functionMark =>
    simp only [startsAt, Bool.or_eq_true] at h ⊢
    rcases h with (((h | h) | h) | h) | h
    · exact .inl (.inl (.inl (.inl (isWordAt_feed h u))))
    · exact .inl (.inl (.inl (.inr (startsWith_append h _))))
    · exact .inl (.inl (.inr (isNamingAt_append h _)))
    · exact .inl (.inr (isNamingAt_append h _))
    · exact .inr (isNamingAt_append h _)
  | commentLine => cases hp
  | magicNumber => cases hp
  | constantDeclaration => cases hp

theorem startsAt_congr {p : Pattern} (hp : p.isOfLine = false) {b d : Option Char}
    (h : opensWord b = opensWord d) (t : List Char) : p.startsAt b t = p.startsAt d t := by
  cases p with
  | commentLine => cases hp
  | magicNumber => cases hp
  | constantDeclaration => cases hp
  | _ => simp only [startsAt, isCallAt, isWordAt, isNamingAt, h]

theorem isBlank_of_trimStart_eq_nil {t : List Char} (h : trimStart t = []) :
    ∀ c ∈ t, isBlank c = true :=
  List.dropWhile_eq_nil_iff.1 h

theorem mem_of_mem_trimStart {t : List Char} {c : Char} (h : c ∈ trimStart t) : c ∈ t :=
  (List.dropWhile_sublist _).subset h

theorem mem_trimStart {t : List Char} {c : Char} (hc : isBlank c = false) (h : c ∈ t) :
    c ∈ trimStart t := by
  induction t with
  | nil => exact h
  | cons d t ih =>
    by_cases hd : isBlank d = true
    · rw [trimStart_cons_of_blank hd]
      rcases List.mem_cons.1 h with rfl | h
      · rw [hd] at hc
        cases hc
      · exact ih h
    · rwa [trimStart, List.dropWhile_cons_of_neg hd]

theorem exists_mem_of_any_head? {f : Char → Bool} {t : List Char} (h : t.head?.any f = true) :
    ∃ c ∈ t, f c = true := by
  cases t with
  | nil => cases h
  | cons c t => exact ⟨c, List.mem_cons_self, h⟩

theorem mem_of_afterCI? {w t r : List Char} (h : afterCI? w t = some r) {c : Char}
    (hc : Avoids w c) : c ∈ t ↔ c ∈ r := by
  induction w generalizing t with
  | nil =>
    cases h
    rfl
  | cons d w ih =>
    rw [avoids_cons] at hc
    cases t with
    | nil => cases h
    | cons e t =>
      simp only [afterCI?] at h
      split at h
      · next hd =>
        have hne : c ≠ e := by
          rintro rfl
          rw [hc.1] at hd
          cases hd
        rw [List.mem_cons, ← ih h hc.2]
        exact or_iff_right hne
      · cases h

theorem bracket_mem_of_isCallAt {w : String} {b : Option Char} {t : List Char}
    (h : isCallAt w b t = true) : '(' ∈ t := by
  rw [isCallAt, Bool.and_eq_true, Option.any_eq_true] at h
  obtain ⟨-, r, hr, hopen⟩ := h
  rw [head?_beq_some] at hopen
  obtain ⟨c, hmem, hc⟩ := exists_mem_of_any_head? hopen
  rw [after?_eq_some_iff] at hr
  rw [beq_iff_eq] at hc
  rw [hr, ← hc]
  exact List.mem_append_right _ (mem_of_mem_trimStart hmem)

theorem quote_mem_of_passwordText {b : Option Char} {t : List Char}
    (h : startsAt .passwordText b t = true) : ∃ c ∈ t, isQuote c = true := by
  obtain ⟨r, v, hr, hv, hquote⟩ := startsAt_passwordText_iff.1 h
  obtain ⟨c, hmem, hc⟩ := exists_mem_of_any_head? hquote
  have hletters : ∀ c, isQuote c = true → Avoids "password".toList c := by
    intro c hc
    rw [isQuote, Bool.or_eq_true, beq_iff_eq, beq_iff_eq] at hc
    rcases hc with rfl | rfl <;> decide
  have hr' : c ∈ r := by
    apply mem_of_mem_trimStart
    rw [hv]
    exact List.mem_cons_of_mem _ (mem_of_mem_trimStart hmem)
  exact ⟨c, (mem_of_afterCI? hr (hletters c hc)).2 hr', hc⟩

theorem space_mem_of_varDeclaration {b : Option Char} {t : List Char}
    (h : startsAt .varDeclaration b t = true) : ∃ c ∈ t, isBlank c = true := by
  rw [startsAt, Bool.and_eq_true, Option.any_eq_true] at h
  obtain ⟨-, r, hr, hspace⟩ := h
  rw [after?_eq_some_iff] at hr
  obtain ⟨c, hmem, hc⟩ := exists_mem_of_any_head? hspace
  exact ⟨c, hr ▸ List.mem_append_right _ hmem, hc⟩

theorem isCallAt_of_feed {w : String} (hw : Unbroken w.toList) (hopen : '(' ∉ w.toList)
    {b : Option Char} {t u : List Char} (h : isCallAt w b (t ++ '\n' :: u) = true) :
    isCallAt w b t = true ∨ '(' ∉ t := by
  rw [isCallAt, Bool.and_eq_true, after?_append_cons hw.2, Option.any_eq_true] at h
  obtain ⟨hb, r', hr', hhead⟩ := h
  obtain ⟨r, hr, rfl⟩ := Option.map_eq_some_iff.1 hr'
  by_cases hnil : trimStart r = []
  · right
    rw [after?_eq_some_iff] at hr
    rw [hr, List.mem_append, not_or]
    refine ⟨hopen, fun hmem => ?_⟩
    exact absurd (isBlank_of_trimStart_eq_nil hnil '(' hmem) (by decide)
  · left
    rw [isCallAt, hb, hr, Option.any_some, Bool.true_and]
    rw [trimStart_append, if_neg hnil] at hhead
    cases htrim : trimStart r with
    | nil => exact absurd htrim hnil
    | cons c v =>
      rw [htrim] at hhead
      exact hhead

theorem any_head?_of_append {f : Char → Bool} {t u : List Char} (ht : t ≠ [])
    (h : (t ++ u).head?.any f = true) : t.head?.any f = true := by
  cases t with
  | nil => exact absurd rfl ht
  | cons c t => exact h

theorem startsAt_passwordText_of_feed {b : Option Char} {t u : List Char}
    (h : startsAt .passwordText b (t ++ '\n' :: u) = true) :
    startsAt .passwordText b t = true ∨ ∀ c ∈ t, isQuote c = false := by
  obtain ⟨r', v', hr', hv', hquote⟩ := startsAt_passwordText_iff.1 h
  rw [afterCI?_append_cons (by decide)] at hr'
  obtain ⟨r, hr, rfl⟩ := Option.map_eq_some_iff.1 hr'
  have hquotes : ∀ c, isQuote c = true →
      isBlank c = false ∧ c ≠ '=' ∧ Avoids "password".toList c := by
    intro c hc
    rw [isQuote, Bool.or_eq_true, beq_iff_eq, beq_iff_eq] at hc
    rcases hc with rfl | rfl <;> decide
  by_cases hnil : trimStart r = []
  · refine .inr fun c hmem => Bool.eq_false_iff.2 fun hc => ?_
    obtain ⟨hblank, -, hletters⟩ := hquotes c hc
    have hr := (mem_of_afterCI? hr hletters).1 hmem
    exact absurd (isBlank_of_trimStart_eq_nil hnil c hr) (Bool.eq_false_iff.1 hblank)
  rw [trimStart_append, if_neg hnil] at hv'
  cases htrim : trimStart r with
  | nil => exact absurd htrim hnil
  | cons d v =>
    rw [htrim, List.cons_append, List.cons.injEq] at hv'
    obtain ⟨rfl, rfl⟩ := hv'
    by_cases hvnil : trimStart v = []
    · refine .inr fun c hmem => Bool.eq_false_iff.2 fun hc => ?_
      obtain ⟨hblank, hne, hletters⟩ := hquotes c hc
      have hmem := mem_trimStart hblank ((mem_of_afterCI? hr hletters).1 hmem)
      rw [htrim, List.mem_cons] at hmem
      exact absurd (isBlank_of_trimStart_eq_nil hvnil c (hmem.resolve_left hne))
        (Bool.eq_false_iff.1 hblank)
    · rw [trimStart_append, if_neg hvnil] at hquote
      exact .inl (startsAt_passwordText_iff.2 ⟨r, v, hr, htrim, any_head?_of_append hvnil hquote⟩)

theorem startsAt_varDeclaration_of_feed {b : Option Char} {t u : List Char}
    (h : startsAt .varDeclaration b (t ++ '\n' :: u) = true) :
    startsAt .varDeclaration b t = true ∨ ∀ c ∈ t, isBlank c = false := by
  rw [startsAt, Bool.and_eq_true, after?_append_cons (by decide), Option.any_eq_true] at h
  obtain ⟨hb, r', hr', hspace⟩ := h
  obtain ⟨r, hr, rfl⟩ := Option.map_eq_some_iff.1 hr'
  by_cases hnil : r = []
  · right
    rw [after?_eq_some_iff, hnil, List.append_nil] at hr
    rw [hr]
    have hall : ("var".toList.all fun c => !isBlank c) = true := by decide
    simpa only [List.all_eq_true, Bool.not_eq_true'] using hall
  · left
    rw [startsAt, hb, hr, Option.any_some, Bool.true_and]
    exact any_head?_of_append hnil hspace

/-- A mark of a rule that only the lines behind a text complete leaves no room in the text for
another one. -/
theorem startsAt_of_feed {r : Rule} {p : Pattern} (hp : r.pattern? = some p) {b : Option Char}
    {t u : List Char} (h : p.startsAt b (t ++ '\n' :: u) = true) :
    p.startsAt b t = true ∨ ∀ d v, v ⊆ t → p.startsAt d v = false := by
  cases r with
  | evalUsage =>
    cases hp
    refine (isCallAt_of_feed (by decide) (by decide) h).imp_right fun hno d v hv => ?_
    exact Bool.eq_false_iff.2 fun hd => hno (hv (bracket_mem_of_isCallAt hd))
  | hardcodedPassword =>
    cases hp
    refine (startsAt_passwordText_of_feed h).imp_right fun hno d v hv => ?_
    refine Bool.eq_false_iff.2 fun hd => ?_
    obtain ⟨c, hmem, hc⟩ := quote_mem_of_passwordText hd
    exact Bool.eq_false_iff.1 (hno c (hv hmem)) hc
  -- a mark without gaps cannot go on behind the line feed
  | innerHtml =>
    cases hp
    left
    rwa [startsAt, startsWith, after?_append_cons (by decide), Option.isSome_map] at h
  | varDeclaration =>
    cases hp
    refine (startsAt_varDeclaration_of_feed h).imp_right fun hno d v hv => ?_
    refine Bool.eq_false_iff.2 fun hd => ?_
    obtain ⟨c, hmem, hc⟩ := space_mem_of_varDeclaration hd
    exact Bool.eq_false_iff.1 (hno c (hv hmem)) hc
  | consoleLog =>
    cases hp
    left
    rw [startsAt, isWordAt, after?_append_cons (by decide), Bool.and_eq_true,
      Option.any_map] at h
    rw [startsAt, isWordAt, Bool.and_eq_true]
    simpa only [Function.comp_def, closesWord_feed] using h
  | sqlConcatenation => cases hp
  | unhandledFetch => cases hp
  | highComplexity => cases hp
  | lowCommentDensity => cases hp
  | magicNumbers => cases hp

end Pattern

end CodeReview
