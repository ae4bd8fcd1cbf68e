import CodeReview.Proofs.Rule.Finding
import CodeReview.Proofs.Text.Letters
import CodeReview.Proofs.Text.Line

/-!
Queries that are put together from pieces. Which texts hold one is said here without a search: the
words of a query and a plus sign stand in them one behind the other. Taking each word at its first
place finds them wherever they are, for it leaves at least as much of the text as any other place.
-/

namespace CodeReview

open Text

namespace Line

variable {w front piece rest r t u : List Char} {ws : List (List Char)}

/-- The text has the words one behind the other, each in either case, and behind them a plus
sign. -/
inductive HasInOrder : List (List Char) → List Char → Prop
  | plus {t : List Char} (there : '+' ∈ t) : HasInOrder [] t
  | word {w front piece rest : List Char} {ws : List (List Char)} (spelled : SpellsCI w piece)
      (behind : HasInOrder ws rest) : HasInOrder (w :: ws) (front ++ (piece ++ rest))

theorem HasInOrder.of_suffix (h : HasInOrder ws t) (hu : t <:+ u) : HasInOrder ws u := by
  obtain ⟨more, rfl⟩ := hu
  cases h with
  | plus there => exact .plus (List.mem_append_right more there)
  | word spelled behind =>
    rw [← List.append_assoc]
    exact .word spelled behind

theorem HasInOrder.of_prefix (h : HasInOrder ws t) (hu : t <+: u) : HasInOrder ws u := by
  obtain ⟨more, rfl⟩ := hu
  induction h with
  | plus there => exact .plus (List.mem_append_left more there)
  | word spelled behind ih =>
    rw [List.append_assoc, List.append_assoc]
    exact .word spelled ih

theorem HasInOrder.of_infix (h : HasInOrder ws t) (hu : t <:+: u) : HasInOrder ws u := by
  obtain ⟨v, hv, hu⟩ := List.infix_iff_prefix_suffix.1 hu
  exact (h.of_prefix hv).of_suffix hu

def Lettered (w : List Char) : Prop :=
  ∀ l ∈ w, l.isLower = true ∧ l ≠ 'i'

instance : DecidablePred Lettered := fun w => List.decidableBAll _ w

theorem exists_of_afterFirstCI? (hw : Lettered w) (h : afterFirstCI? w t = some r) :
    ∃ front piece, SpellsCI w piece ∧ t = front ++ (piece ++ r) := by
  induction t with
  | nil => cases h
  | cons c t ih =>
    rw [afterFirstCI?] at h
    split at h
    · next hhere =>
      cases h
      obtain ⟨piece, hpiece, ht⟩ := (afterCI?_eq_some_iff hw).1 hhere
      exact ⟨[], piece, hpiece, ht⟩
    · obtain ⟨front, piece, hpiece, rfl⟩ := ih h
      exact ⟨c :: front, piece, hpiece, rfl⟩

theorem afterFirstCI?_append (hw : Lettered w) (hne : w ≠ []) (hpiece : SpellsCI w piece)
    (front rest : List Char) :
    ∃ r, afterFirstCI? w (front ++ (piece ++ rest)) = some r ∧ rest <:+ r := by
  induction front with
  | nil =>
    have hhere : afterCI? w (piece ++ rest) = some rest :=
      (afterCI?_eq_some_iff hw).2 ⟨piece, hpiece, rfl⟩
    cases hpiece with
    | nil => exact absurd rfl hne
    | cons hc hpiece =>
      rw [List.cons_append] at hhere
      rw [List.nil_append, List.cons_append, afterFirstCI?, hhere]
      exact ⟨rest, rfl, List.suffix_rfl⟩
  | cons c front ih =>
    rw [List.cons_append, afterFirstCI?]
    split
    · next r hhere =>
      refine ⟨r, rfl, ?_⟩
      obtain ⟨piece', hpiece', ht⟩ := (afterCI?_eq_some_iff hw).1 hhere
      -- both pieces are as long as the word, and this one begins first
      have hlength := congrArg List.length ht
      simp only [List.length_cons, List.length_append, ← hpiece.length_eq,
        ← hpiece'.length_eq] at hlength
      have hrest : rest <:+ c :: (front ++ (piece ++ rest)) :=
        ((List.suffix_append piece rest).trans (List.suffix_append front _)).trans
          (List.suffix_cons c _)
      have hr : r <:+ c :: (front ++ (piece ++ rest)) := ht ▸ List.suffix_append piece' r
      exact List.suffix_of_suffix_length_le hrest hr (by omega)
    · exact ih

theorem hasInOrder_cons_iff (hw : Lettered w) (hne : w ≠ []) :
    HasInOrder (w :: ws) t ↔ ∃ r, afterFirstCI? w t = some r ∧ HasInOrder ws r := by
  constructor
  · intro h
    cases h with
    | word spelled behind =>
      obtain ⟨r, hr, hsuffix⟩ := afterFirstCI?_append hw hne spelled _ _
      exact ⟨r, hr, behind.of_suffix hsuffix⟩
  · rintro ⟨r, hr, behind⟩
    obtain ⟨front, piece, spelled, rfl⟩ := exists_of_afterFirstCI? hw hr
    exact .word spelled behind

theorem hasInOrder_nil_iff : HasInOrder [] t ↔ '+' ∈ t := by
  constructor
  · intro h
    cases h with
    | plus there => exact there
  · exact .plus

/-- The text has a query that is put together from pieces. -/
def HasQuery (t : List Char) : Prop :=
  HasInOrder ["select".toList, "from".toList, "where".toList] t

theorem joinsQuery_eq_any (l : List Char) :
    joinsQuery l = (afterFirstCI? "select".toList l).any fun r =>
      (afterFirstCI? "from".toList r).any fun r =>
        (afterFirstCI? "where".toList r).any fun r => r.contains '+' := by
  rw [joinsQuery]
  cases afterFirstCI? "select".toList l with
  | none => rfl
  | some r =>
    simp only [Option.any_some]
    cases afterFirstCI? "from".toList r with
    | none => rfl
    | some r =>
      simp only [Option.any_some]
      cases afterFirstCI? "where".toList r with
      | none => rfl
      | some r => rfl

theorem joinsQuery_iff : joinsQuery t = true ↔ HasQuery t := by
  have hselect : Lettered "select".toList := by decide
  have hfrom : Lettered "from".toList := by decide
  have hwhere : Lettered "where".toList := by decide
  simp only [joinsQuery_eq_any, Option.any_eq_true, List.contains_iff_mem]
  rw [HasQuery, hasInOrder_cons_iff hselect (by decide)]
  simp only [hasInOrder_cons_iff hfrom (by decide), hasInOrder_cons_iff hwhere (by decide),
    hasInOrder_nil_iff]

example : joinsQuery "ſelect a FROM b\r wherE c +".toList = true := by
  decide +kernel

end Line

namespace Analysis

open Line

/-- A query put together from pieces is a finding where some line has the words of one and behind
them a plus sign; in the text as a whole, where they stand so with no line feed between them. Words
that are spread over lines are none, and the finding has no line. -/
theorem reports_of_joined_queries (content : String) :
    ((∃ f, (ofText content).Reports .sqlConcatenation f) ↔
      ∃ l ∈ lines content.toList, HasQuery l) ∧
    ((∃ f, (ofText content).Reports .sqlConcatenation f) ↔
      ∃ q, q <:+: content.toList ∧ '\n' ∉ q ∧ HasQuery q) ∧
    ∀ f, (ofText content).Reports .sqlConcatenation f → f.line = none := by
  have hlines : (∃ f, (ofText content).Reports .sqlConcatenation f) ↔
      ∃ l ∈ lines content.toList, HasQuery l := by
    rw [exists_reports_iff_judges rfl, Rule.judges, List.any_eq_true]
    simp only [joinsQuery_iff]
  refine ⟨hlines, hlines.trans ?_, fun f hf => ?_⟩
  · constructor
    · rintro ⟨l, hl, hquery⟩
      obtain ⟨hfree, hinfix⟩ := infix_line_iff.1 ⟨l, hl, List.infix_rfl⟩
      exact ⟨l, hinfix, hfree, hquery⟩
    · rintro ⟨q, hinfix, hfree, hquery⟩
      obtain ⟨l, hl, hq⟩ := infix_line_iff.2 ⟨hfree, hinfix⟩
      exact ⟨l, hl, hquery.of_infix hq⟩
  · obtain ⟨-, hfind⟩ := reports_ofText_iff.1 hf
    exact Rule.line_of_find? rfl hfind

end Analysis

end CodeReview
