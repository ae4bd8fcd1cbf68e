import CodeReview.Proofs.Rule.Shape

/-!
Bare numbers. Which lines have one, which are comments and which declare a constant is said here by
the parts of a line, in their order. The tests of a line take each part as far as it goes; as no
part can go on with the first character of the next one, they find the parts wherever they are.
-/

namespace CodeReview

open Text

namespace Line

open Pattern

variable {c : Char} {l t w front rest : List Char}

/-- A word of the line is a number of three digits or more, and not the part of one behind a
point. -/
def HasBareNumber (l : List Char) : Prop :=
  ∃ front w after, l = front ++ (w ++ after) ∧ IsWordBetween front w after ∧
    (∀ c ∈ w, isDigit c = true) ∧ 3 ≤ w.length ∧ front.getLast? ≠ some '.'

def IsCommentLine (l : List Char) : Prop :=
  ∃ gap after, ∃ mark ∈ ["//", "#", "/*", "*", "<!--"],
    IsGap gap ∧ l = gap ++ (mark.toList ++ after)

def isNamePart (c : Char) : Bool :=
  isCapital c || ('0' ≤ c && c ≤ '9') || c == '_'

/-- The ways in which the declaration of a constant begins. -/
inductive Declaration : List Char → Prop
  | const {after : List Char} (closed : FreeStart after) : Declaration ("const".toList ++ after)
  | final {after : List Char} (closed : FreeStart after) : Declaration ("final".toList ++ after)
  | staticFinal {gap after : List Char} (filled : gap ≠ []) (blank : IsGap gap)
      (closed : FreeStart after) :
      Declaration ("static".toList ++ (gap ++ ("final".toList ++ after)))
  | define {after : List Char} (closed : FreeStart after) :
      Declaration ("#define".toList ++ after)
  | name {c sign : Char} {name gap after : List Char} (capital : isCapital c = true)
      (plain : ∀ d ∈ name, isNamePart d = true) (blank : IsGap gap)
      (signed : sign = ':' ∨ sign = '=') : Declaration (c :: (name ++ (gap ++ sign :: after)))

/-- The line begins, behind white space, with the declaration of a constant, which may be
exported. -/
inductive IsConstantLine : List Char → Prop
  | plain {gap decl : List Char} (blank : IsGap gap) (declared : Declaration decl) :
      IsConstantLine (gap ++ decl)
  | exported {gap gap' decl : List Char} (blank : IsGap gap) (filled : gap' ≠ [])
      (blank' : IsGap gap') (declared : Declaration decl) :
      IsConstantLine (gap ++ ("export".toList ++ (gap' ++ decl)))

theorem isDigit_of_freeStart (h : FreeStart rest) : ∀ c ∈ rest.head?, isDigit c = false := by
  intro c hc
  refine Bool.eq_false_iff.2 fun hdigit => ?_
  have hfree := h c hc
  rw [isWord_of_isDigit hdigit] at hfree
  cases hfree

theorem isMagicNumberAt_iff :
    isMagicNumberAt front.getLast? rest = true ↔
      ∃ w after, rest = w ++ after ∧ IsWordBetween front w after ∧
        (∀ c ∈ w, isDigit c = true) ∧ 3 ≤ w.length ∧ front.getLast? ≠ some '.' := by
  simp only [isMagicNumberAt, Bool.and_eq_true, bne_iff_ne, decide_eq_true_eq, opensWord_iff,
    closesWord_iff]
  constructor
  · rintro ⟨⟨⟨opened, hpoint⟩, hlength⟩, closed⟩
    have hdigits : ∀ c ∈ rest.takeWhile isDigit, isDigit c = true :=
      List.all_eq_true.1 List.all_takeWhile
    have hfilled : rest.takeWhile isDigit ≠ [] := by
      intro hnil
      rw [hnil] at hlength
      exact absurd hlength (by decide)
    exact ⟨_, _, List.takeWhile_append_dropWhile.symm,
      ⟨hfilled, fun c hc => isWord_of_isDigit (hdigits c hc), opened, closed⟩, hdigits, hlength,
      hpoint⟩
  · rintro ⟨w, after, rfl, hword, hdigits, hlength, hpoint⟩
    obtain ⟨htake, hdrop⟩ :=
      takeWhile_append_of_stop hdigits (isDigit_of_freeStart hword.closed)
    rw [htake, hdrop]
    exact ⟨⟨⟨hword.opened, hpoint⟩, hlength⟩, hword.closed⟩

theorem occurs_magicNumber_iff : occurs .magicNumber l = true ↔ HasBareNumber l := by
  rw [occurs_iff_exists]
  simp only [startsAt, isMagicNumberAt_iff]
  constructor
  · rintro ⟨front, _, rfl, -, w, after, rfl, h⟩
    exact ⟨front, w, after, rfl, h⟩
  · rintro ⟨front, w, after, rfl, h⟩
    exact ⟨front, _, rfl, List.append_ne_nil_of_left_ne_nil h.1.filled after, w, after, rfl, h⟩

theorem trimStart_append_of_head (hw : (w.head?.any fun c => !isBlank c) = true)
    (t : List Char) : trimStart (w ++ t) = w ++ t := by
  cases w with
  | nil => cases hw
  | cons c w => exact trimStart_cons_of_not_blank (by simpa using hw) (w ++ t)

theorem isComment_iff : isComment l = true ↔ IsCommentLine l := by
  have hmarks : ∀ m ∈ ["//", "#", "/*", "*", "<!--"],
      (m.toList.head?.any fun c => !isBlank c) = true := by decide
  rw [isComment, startsAt, Option.isNone_none, Bool.true_and, isCommentStart, List.any_eq_true]
  simp only [startsWith, Option.isSome_iff_exists, after?_eq_some_iff]
  constructor
  · rintro ⟨m, hm, after, hafter⟩
    obtain ⟨gap, hgap, hl⟩ := exists_gap l
    exact ⟨gap, after, m, hm, hgap, hafter ▸ hl⟩
  · rintro ⟨gap, after, m, hm, hgap, rfl⟩
    refine ⟨m, hm, after, ?_⟩
    rw [trimStart_gap_append hgap, trimStart_append_of_head (hmarks m hm)]

theorem toNat_of_isCapital (h : isCapital c = true) : 65 ≤ c.toNat ∧ c.toNat ≤ 90 := by
  rw [isCapital, Bool.and_eq_true, decide_eq_true_iff, decide_eq_true_iff] at h
  exact ⟨UInt32.le_iff_toNat_le.1 h.1, UInt32.le_iff_toNat_le.1 h.2⟩

theorem isBlank_of_isNamePart (h : isNamePart c = true) : isBlank c = false := by
  have hcode : 48 ≤ c.toNat ∧ c.toNat ≤ 95 := by
    simp only [isNamePart, Bool.or_eq_true, Bool.and_eq_true, decide_eq_true_eq, beq_iff_eq] at h
    obtain (hcapital | ⟨hfrom, hto⟩) | rfl := h
    · have hcode := toNat_of_isCapital hcapital
      omega
    · have hfrom : 48 ≤ c.toNat := UInt32.le_iff_toNat_le.1 hfrom
      have hto : c.toNat ≤ 57 := UInt32.le_iff_toNat_le.1 hto
      omega
    · decide
  refine Bool.eq_false_iff.2 fun hblank => ?_
  have hcodes := toNat_mem_blankCodes hblank
  simp only [blankCodes, List.mem_append, List.mem_range'_1, List.mem_cons, List.not_mem_nil,
    or_false] at hcodes
  omega

theorem isNamePart_of_isCapital (h : isCapital c = true) : isNamePart c = true := by
  rw [isNamePart, h, Bool.true_or, Bool.true_or]

theorem sign_iff {r : List Char} :
    (r.head? == some ':' || r.head? == some '=') = true ↔
      ∃ sign, r.head? = some sign ∧ (sign = ':' ∨ sign = '=') := by
  rw [Bool.or_eq_true, beq_iff_eq, beq_iff_eq]
  constructor
  · rintro (h | h)
    · exact ⟨_, h, .inl rfl⟩
    · exact ⟨_, h, .inr rfl⟩
  · rintro ⟨sign, h, rfl | rfl⟩
    · exact .inl h
    · exact .inr h

theorem isNamePart_of_gap {gap after : List Char} {sign : Char} (hgap : IsGap gap)
    (hsign : isNamePart sign = false) :
    ∀ c ∈ (gap ++ sign :: after).head?, isNamePart c = false := by
  intro c hc
  cases gap with
  | nil =>
    cases hc
    exact hsign
  | cons d gap =>
    obtain rfl : d = c := Option.some.inj hc
    refine Bool.eq_false_iff.2 fun hpart => ?_
    have hblank := hgap d List.mem_cons_self
    rw [isBlank_of_isNamePart hpart] at hblank
    cases hblank

theorem isConstantName_iff :
    isConstantName t = true ↔
      ∃ c name gap sign after, isCapital c = true ∧ (∀ d ∈ name, isNamePart d = true) ∧
        IsGap gap ∧ (sign = ':' ∨ sign = '=') ∧ t = c :: (name ++ (gap ++ sign :: after)) := by
  have hsigns : ∀ {sign}, sign = ':' ∨ sign = '=' →
      isBlank sign = false ∧ isNamePart sign = false := by
    rintro _ (rfl | rfl) <;> decide
  rw [isConstantName, Bool.and_eq_true, Option.any_eq_true]
  change _ ∧ ((trimStart (t.dropWhile isNamePart)).head? == some ':'
    || (trimStart (t.dropWhile isNamePart)).head? == some '=') = true ↔ _
  rw [sign_iff]
  constructor
  · rintro ⟨⟨c, hc, hcapital⟩, sign, hhead, hsign⟩
    obtain ⟨t, rfl⟩ := List.head?_eq_some_iff.1 hc
    rw [List.dropWhile_cons_of_pos (isNamePart_of_isCapital hcapital),
      head?_trimStart_eq_some_iff (hsigns hsign).1] at hhead
    obtain ⟨gap, after, hgap, hdrop⟩ := hhead
    refine ⟨c, t.takeWhile isNamePart, gap, sign, after, hcapital,
      List.all_eq_true.1 List.all_takeWhile, hgap, hsign, ?_⟩
    rw [← hdrop, List.takeWhile_append_dropWhile]
  · rintro ⟨c, name, gap, sign, after, hcapital, hname, hgap, hsign, rfl⟩
    refine ⟨⟨c, rfl, hcapital⟩, sign, ?_, hsign⟩
    rw [List.dropWhile_cons_of_pos (isNamePart_of_isCapital hcapital),
      (takeWhile_append_of_stop hname (isNamePart_of_gap hgap (hsigns hsign).2)).2,
      head?_trimStart_eq_some_iff (hsigns hsign).1]
    exact ⟨gap, after, hgap, rfl⟩

theorem isConstantStart_iff : isConstantStart t = true ↔ Declaration t := by
  simp only [isConstantStart, Bool.or_eq_true, List.any_eq_true, any_after?_iff, closesWord_iff,
    isConstantName_iff, Bool.and_eq_true, any_head?_isBlank_iff]
  constructor
  · rintro ((⟨word, hword, after, rfl, hafter⟩ | ⟨r, rfl, ⟨gap, hne, hgap, hr⟩, after, hfinal,
      hafter⟩) | ⟨c, name, gap, sign, after, hcapital, hname, hgap, hsign, rfl⟩)
    · simp only [List.mem_cons, List.not_mem_nil, or_false] at hword
      obtain rfl | rfl | rfl := hword
      · exact .const hafter
      · exact .final hafter
      · exact .define hafter
    · rw [hr, hfinal]
      exact .staticFinal hne hgap hafter
    · exact .name hcapital hname hgap hsign
  · intro h
    cases h with
    | const hafter => exact .inl (.inl ⟨"const", by decide, _, rfl, hafter⟩)
    | final hafter => exact .inl (.inl ⟨"final", by decide, _, rfl, hafter⟩)
    | define hafter => exact .inl (.inl ⟨"#define", by decide, _, rfl, hafter⟩)
    | @staticFinal gap after hne hgap hafter =>
      have htrim : trimStart (gap ++ ("final".toList ++ after)) = "final".toList ++ after := by
        rw [trimStart_gap_append hgap, trimStart_append_of_head (by decide)]
      exact .inl (.inr ⟨_, rfl, ⟨gap, hne, hgap, by rw [htrim]⟩, after, htrim, hafter⟩)
    | name hcapital hname hgap hsign =>
      exact .inr ⟨_, _, _, _, _, hcapital, hname, hgap, hsign, rfl⟩

theorem Declaration.exists_cons (h : Declaration t) :
    ∃ c rest, t = c :: rest ∧ isBlank c = false ∧ c ≠ 'e' := by
  cases h with
  | const => exact ⟨'c', _, rfl, by decide, by decide⟩
  | final => exact ⟨'f', _, rfl, by decide, by decide⟩
  | staticFinal => exact ⟨'s', _, rfl, by decide, by decide⟩
  | define => exact ⟨'#', _, rfl, by decide, by decide⟩
  | name hcapital =>
    refine ⟨_, _, rfl, isBlank_of_isNamePart (isNamePart_of_isCapital hcapital), ?_⟩
    rintro rfl
    cases hcapital

theorem Declaration.trimStart_eq (h : Declaration t) : trimStart t = t := by
  obtain ⟨c, rest, rfl, hblank, -⟩ := h.exists_cons
  exact trimStart_cons_of_not_blank hblank rest

theorem Declaration.skipExport_eq (h : Declaration t) : skipExport t = t := by
  obtain ⟨c, rest, rfl, -, hne⟩ := h.exists_cons
  have hafter : after? "export".toList (c :: rest) = none := if_neg (Ne.symm hne)
  rw [skipExport, hafter]

theorem skipExport_append {gap : List Char} (hne : gap ≠ []) (hgap : IsGap gap)
    (h : Declaration t) : skipExport ("export".toList ++ (gap ++ t)) = t := by
  have htrim : trimStart (gap ++ t) = t := by rw [trimStart_gap_append hgap, h.trimStart_eq]
  have hhead : (gap ++ t).head?.any isBlank = true :=
    any_head?_isBlank_iff.2 ⟨gap, hne, hgap, by rw [htrim]⟩
  rw [skipExport, after?_append]
  simp only [hhead, if_true, htrim]

theorem declaresConstant_iff : declaresConstant l = true ↔ IsConstantLine l := by
  rw [declaresConstant, startsAt, Option.isNone_none, Bool.true_and, isConstantStart_iff]
  constructor
  · intro h
    obtain ⟨gap, hgap, hl⟩ := exists_gap l
    rw [hl]
    rw [skipExport] at h
    split at h
    · next r hexport =>
      rw [after?_eq_some_iff] at hexport
      split at h
      · next hblank =>
        obtain ⟨gap', hne, hgap', hr⟩ := any_head?_isBlank_iff.1 hblank
        rw [hexport, hr]
        exact .exported hgap hne hgap' h
      · exact .plain hgap h
    · exact .plain hgap h
  · intro h
    cases h with
    | plain hgap hdecl =>
      rw [trimStart_gap_append hgap, hdecl.trimStart_eq, hdecl.skipExport_eq]
      exact hdecl
    | exported hgap hne hgap' hdecl =>
      rw [trimStart_gap_append hgap, trimStart_append_of_head (by decide),
        skipExport_append hne hgap' hdecl]
      exact hdecl

theorem hasMagicNumber_iff :
    hasMagicNumber l = true ↔ HasBareNumber l ∧ ¬IsCommentLine l ∧ ¬IsConstantLine l := by
  rw [hasMagicNumber, Bool.and_eq_true, Bool.and_eq_true, Bool.not_eq_true', Bool.not_eq_true',
    occurs_magicNumber_iff, ← isComment_iff, ← declaresConstant_iff, Bool.not_eq_true,
    Bool.not_eq_true]
  exact ⟨fun ⟨⟨hconstant, hcomment⟩, hnumber⟩ => ⟨hnumber, hcomment, hconstant⟩,
    fun ⟨hnumber, hcomment, hconstant⟩ => ⟨⟨hconstant, hcomment⟩, hnumber⟩⟩

example : hasMagicNumber "t = 12_345 + x999 + 1.500 + 99".toList = false := by decide +kernel

end Line

namespace Analysis

open Line

/-- A bare number is a finding where some line has one and is neither a comment nor the declaration
of a constant. -/
theorem reports_of_bare_numbers (content : String) :
    (∃ f, (ofText content).Reports .magicNumbers f) ↔
      ∃ l ∈ lines content.toList, HasBareNumber l ∧ ¬IsCommentLine l ∧ ¬IsConstantLine l := by
  rw [exists_reports_iff_judges rfl, Rule.judges, List.any_eq_true]
  simp only [hasMagicNumber_iff]

end Analysis

end CodeReview
