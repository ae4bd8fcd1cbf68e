import CodeReview.Proofs.Number.Nearest
import CodeReview.Proofs.Rule.BareNumber
import CodeReview.Proofs.Text.Line

/-!
Comments in long texts. The share of comment lines is rounded, and so is the tenth that it is
compared with; yet the comparison comes out as that of the exact shares, because no share of fewer
than 2⁵⁶ lines lies between a tenth and the middle of the two numbers around it. A text that ends
with a line feed has one more line than without it, and is judged with this line.
-/

namespace CodeReview

open Text

namespace Line

open Binary64

variable {u c n : Nat} {ls : List (List Char)}

instance : DecidablePred IsCommentLine := fun _ => decidable_of_iff _ isComment_iff

/-- The share of comment lines, as it is computed, is less than a tenth. -/
def IsSparse (ls : List (List Char)) : Prop :=
  (commentRatio ls).lt leastCommentRatio = true

theorem leastCommentRatio_eq :
    leastCommentRatio = .finite false ((7205759403792793 + 1) * 2 ^ 1018) := by
  decide +kernel

theorem unitsOfOne_eq_mul : unitsOfOne = 2 ^ 56 * 2 ^ 1018 := by
  rw [unitsOfOne_eq, ← Nat.pow_add]

/-- What is nearest to a share is below the number for a tenth if the share is below the middle
between that number and the one in front of it. -/
theorem lt_tenth_iff {e : Nat} (he : unitsOfOne = 2 ^ 56 * 2 ^ e)
    (hu : IsNearest u (c * unitsOfOne) n) (hn : 0 < n)
    (hmiddle : 2 ^ 57 * c ≠ (2 * 7205759403792793 + 1) * n) :
    u < (7205759403792793 + 1) * 2 ^ e ↔ 2 ^ 57 * c < (2 * 7205759403792793 + 1) * n := by
  have hpos := Nat.two_pow_pos e
  have hdouble : (2 : Nat) ^ 57 = 2 * 2 ^ 56 := by decide
  have hleft : 2 * (c * unitsOfOne) = 2 ^ 57 * c * 2 ^ e := by
    rw [he, hdouble]
    ac_rfl
  have hright : (2 * 7205759403792793 + 1) * 2 ^ e * n =
      (2 * 7205759403792793 + 1) * n * 2 ^ e := Nat.mul_right_comm _ _ _
  have hiff := hu.lt_next_iff (k := 7205759403792793) (e := e) hn (by decide) (by decide)
  rw [hleft, hright, Nat.mul_lt_mul_right hpos] at hiff
  exact hiff fun heq => hmiddle (Nat.eq_of_mul_eq_mul_right hpos heq)

theorem isSparse_iff (h : ls ≠ []) :
    IsSparse ls ↔ roundUnits (ls.countP isComment * unitsOfOne) ls.length <
      (7205759403792793 + 1) * 2 ^ 1018 := by
  have hempty : ls.isEmpty = false := by simpa using h
  rw [IsSparse, commentRatio, hempty, if_neg Bool.false_ne_true, leastCommentRatio_eq]
  exact ofRatio_lt_iff (List.length_pos_iff.2 h) List.countP_le_length

theorem isNearest_share (h : ls ≠ []) :
    IsNearest (roundUnits (ls.countP isComment * unitsOfOne) ls.length)
      (ls.countP isComment * unitsOfOne) ls.length :=
  isNearest_roundUnits _ (List.length_pos_iff.2 h)

theorem isSparse_of_lt (hlt : ls.length < 2 ^ 56) (h : 10 * ls.countP isComment < ls.length) :
    IsSparse ls := by
  have hne : ls ≠ [] := List.length_pos_iff.1 (Nat.zero_lt_of_lt h)
  have hbelow : 2 ^ 57 * ls.countP isComment < (2 * 7205759403792793 + 1) * ls.length := by omega
  rw [isSparse_iff hne, lt_tenth_iff unitsOfOne_eq_mul (isNearest_share hne)
    (List.length_pos_iff.2 hne) (Nat.ne_of_lt hbelow)]
  exact hbelow

theorem not_isSparse_of_le (hne : ls ≠ []) (h : ls.length ≤ 10 * ls.countP isComment) :
    ¬IsSparse ls := by
  have hpos := List.length_pos_iff.2 hne
  have habove : (2 * 7205759403792793 + 1) * ls.length < 2 ^ 57 * ls.countP isComment := by omega
  rw [isSparse_iff hne, lt_tenth_iff unitsOfOne_eq_mul (isNearest_share hne) hpos
    (Nat.ne_of_gt habove)]
  exact Nat.not_lt_of_gt habove

theorem isSparse_iff_lt (hne : ls ≠ []) (hlt : ls.length < 2 ^ 56) :
    IsSparse ls ↔ 10 * ls.countP isComment < ls.length :=
  ⟨fun h => Nat.lt_of_not_le fun hle => not_isSparse_of_le hne hle h, isSparse_of_lt hlt⟩

theorem countP_ended (ls : List (List Char)) :
    (ls ++ [[]]).countP isComment = ls.countP isComment := by
  have hempty : isComment [] = false := by decide
  rw [List.countP_append, List.countP_singleton, hempty, if_neg Bool.false_ne_true, Nat.add_zero]

theorem length_ended (ls : List (List Char)) : (ls ++ [[]]).length = ls.length + 1 :=
  List.length_append

theorem IsSparse.ended (hne : ls ≠ []) (h : IsSparse ls) : IsSparse (ls ++ [[]]) := by
  have hmore : ls ++ [[]] ≠ [] := List.append_ne_nil_of_left_ne_nil hne _
  have hnear := isNearest_share hne
  have hnear' := isNearest_share hmore
  rw [isSparse_iff hne] at h
  rw [isSparse_iff hmore]
  refine Nat.lt_of_le_of_lt ?_ h
  rw [countP_ended, length_ended] at hnear' ⊢
  rcases Nat.eq_zero_or_pos (ls.countP isComment) with hnone | hsome
  · rw [hnone, Nat.zero_mul, roundUnits_zero]
    exact Nat.zero_le _
  · have hnum := Nat.mul_pos hsome unitsOfOne_pos
    exact hnear'.mono hnear (Nat.succ_pos _) (List.length_pos_iff.2 hne)
      (Nat.mul_lt_mul_of_pos_left (Nat.lt_succ_self _) hnum)

end Line

namespace Analysis

open Line

def LacksComments (content : String) : Prop :=
  ∃ f, (ofText content).Reports .lowCommentDensity f

def lineCount (content : String) : Nat :=
  (lines content.toList).length

def commentCount (content : String) : Nat :=
  (lines content.toList).countP fun l => IsCommentLine l

variable {content : String}

theorem lines_ne_nil (content : String) : lines content.toList ≠ [] :=
  List.splitOn_ne_nil '\n' _

theorem commentCount_eq (content : String) :
    commentCount content = (lines content.toList).countP isComment := by
  refine List.countP_congr fun l _ => ?_
  rw [decide_eq_true_iff, isComment_iff]

theorem lacksComments_iff :
    LacksComments content ↔ 50 < lineCount content ∧ IsSparse (lines content.toList) := by
  rw [LacksComments, exists_reports_iff_judges rfl, Rule.judges, lacksComments, Bool.and_eq_true,
    decide_eq_true_iff]
  rfl

theorem isSparse_lines_iff (hn : lineCount content < 2 ^ 53) :
    IsSparse (lines content.toList) ↔ 10 * commentCount content < lineCount content := by
  have hlt : (lines content.toList).length < 2 ^ 56 := Nat.lt_trans hn (by decide)
  rw [isSparse_iff_lt (lines_ne_nil content) hlt, commentCount_eq, lineCount]

/-- A text of more than 50 lines lacks comments if fewer than a tenth of them are comments. That the
shares are rounded before they are compared makes no difference. -/
theorem lacksComments_iff_few (hn : lineCount content < 2 ^ 53) :
    LacksComments content ↔
      50 < lineCount content ∧ 10 * commentCount content < lineCount content :=
  lacksComments_iff.trans (and_congr_right' (isSparse_lines_iff hn))

def ofLines (ls : List (List Char)) : String :=
  String.ofList (['\n'].intercalate ls)

theorem lines_ofLines (ls : List (List Char)) (hne : ls ≠ []) (hfeed : ∀ l ∈ ls, '\n' ∉ l) :
    lines (ofLines ls).toList = ls := by
  rw [ofLines, String.toList_ofList, lines, List.splitOn_intercalate '\n' hfeed hne]

theorem lacksComments_six_of_sixty_one :
    lineCount (ofLines (List.replicate 6 ['#'] ++ List.replicate 55 ['x'])) < 2 ^ 53 ∧
    LacksComments (ofLines (List.replicate 6 ['#'] ++ List.replicate 55 ['x'])) := by
  have hlines := lines_ofLines (List.replicate 6 ['#'] ++ List.replicate 55 ['x'])
    (by decide) (by decide)
  have hlength : lineCount (ofLines (List.replicate 6 ['#'] ++ List.replicate 55 ['x'])) = 61 := by
    rw [lineCount, hlines]
    rfl
  have hcount : commentCount (ofLines (List.replicate 6 ['#'] ++ List.replicate 55 ['x'])) = 6 := by
    rw [commentCount_eq, hlines]
    decide +kernel
  have hn : lineCount (ofLines (List.replicate 6 ['#'] ++ List.replicate 55 ['x'])) < 2 ^ 53 := by
    rw [hlength]
    decide
  refine ⟨hn, (lacksComments_iff_few hn).2 ?_⟩
  rw [hlength, hcount]
  decide

theorem lines_toList_ended (content : String) :
    lines (content ++ "\n").toList = lines content.toList ++ [[]] := by
  rw [String.toList_append]
  exact lines_ended _

theorem lineCount_ended (content : String) : lineCount (content ++ "\n") = lineCount content + 1 := by
  rw [lineCount, lines_toList_ended, length_ended, lineCount]

theorem isSparse_ended_iff (hn : lineCount content < 2 ^ 53) :
    IsSparse (lines (content ++ "\n").toList) ↔
      10 * commentCount content < lineCount content + 1 := by
  have hne : lines content.toList ++ [[]] ≠ [] :=
    List.append_ne_nil_of_left_ne_nil (lines_ne_nil content) _
  have hlt : (lines content.toList ++ [[]]).length < 2 ^ 56 := by
    rw [length_ended]
    exact Nat.lt_trans (Nat.succ_lt_succ hn) (by decide)
  rw [lines_toList_ended, isSparse_iff_lt hne hlt, countP_ended, length_ended, commentCount_eq,
    lineCount]

/-- A line feed at the end of a text counts as one more line, an empty one. A text that lacks comments
still lacks them with it. A text that does not may lack them with it: if it has just 50 lines, of
which at most 5 are comments, or if it is longer and the line takes its share of comments below a
tenth, which the share then has to be. -/
theorem lacksComments_ended (content : String) :
    (LacksComments content → LacksComments (content ++ "\n")) ∧
    (LacksComments (content ++ "\n") ∧ ¬LacksComments content ↔
      lineCount content = 50 ∧ commentCount content ≤ 5 ∨
        50 < lineCount content ∧ ¬IsSparse (lines content.toList) ∧
          IsSparse (lines (content ++ "\n").toList)) ∧
    (lineCount content < 2 ^ 53 →
      (¬IsSparse (lines content.toList) ∧ IsSparse (lines (content ++ "\n").toList) ↔
        10 * commentCount content = lineCount content)) ∧
    (lineCount content = 50 ∨ 10 * commentCount content = lineCount content →
      ¬LacksComments content) := by
  have hended : IsSparse (lines content.toList) → IsSparse (lines (content ++ "\n").toList) := by
    rw [lines_toList_ended]
    exact IsSparse.ended (lines_ne_nil content)
  have hfifty : lineCount content = 50 →
      (IsSparse (lines (content ++ "\n").toList) ↔ commentCount content ≤ 5) := by
    intro h
    rw [isSparse_ended_iff (h ▸ by decide), h]
    omega
  rw [lacksComments_iff, lacksComments_iff, lineCount_ended]
  refine ⟨?_, ?_, ?_, ?_⟩
  · rintro ⟨hlong, hsparse⟩
    exact ⟨Nat.lt_succ_of_lt hlong, hended hsparse⟩
  · constructor
    · rintro ⟨⟨hlong, hsparse⟩, hnot⟩
      -- one line more: either the fiftieth is passed just now, or the share has fallen below
      rcases Nat.eq_or_lt_of_le (Nat.le_of_lt_succ hlong) with heq | hgt
      · exact .inl ⟨heq.symm, (hfifty heq.symm).1 hsparse⟩
      · exact .inr ⟨hgt, fun h => hnot ⟨hgt, h⟩, hsparse⟩
    · rintro (⟨heq, hfew⟩ | ⟨hgt, hnot, hsparse⟩)
      · exact ⟨⟨by omega, (hfifty heq).2 hfew⟩, fun h => by omega⟩
      · exact ⟨⟨Nat.lt_succ_of_lt hgt, hsparse⟩, fun h => hnot h.2⟩
  · intro hn
    rw [isSparse_lines_iff hn, isSparse_ended_iff hn]
    omega
  · rintro (heq | heq) ⟨hlong, hsparse⟩
    · omega
    · rw [commentCount_eq] at heq
      exact not_isSparse_of_le (lines_ne_nil content) (Nat.le_of_eq heq.symm) hsparse

/-- Fifty lines are not too many without comments, but with a line feed behind them they are. -/
theorem fifty_lines_long_once_ended :
    ofLines (List.replicate 50 ['x']) ≠ "" ∧
    (ofLines (List.replicate 50 ['x'])).toList.getLast? ≠ some '\n' ∧
    ¬LacksComments (ofLines (List.replicate 50 ['x'])) ∧
    LacksComments (ofLines (List.replicate 50 ['x']) ++ "\n") := by
  have hlines := lines_ofLines (List.replicate 50 ['x']) (by decide) (by decide)
  have hlength : lineCount (ofLines (List.replicate 50 ['x'])) = 50 := by
    rw [lineCount, hlines]
    rfl
  have hcount : commentCount (ofLines (List.replicate 50 ['x'])) = 0 := by
    rw [commentCount_eq, hlines]
    decide +kernel
  have hn : lineCount (ofLines (List.replicate 50 ['x'])) < 2 ^ 53 := by
    rw [hlength]
    decide
  refine ⟨?_, ?_, fun h => ?_, lacksComments_iff.2 ⟨?_, ?_⟩⟩
  · intro h
    rw [h] at hlength
    cases hlength
  · rw [ofLines, String.toList_ofList]
    decide +kernel
  · rw [lacksComments_iff, hlength] at h
    exact Nat.lt_irrefl 50 h.1
  · rw [lineCount_ended, hlength]
    decide
  · rw [isSparse_ended_iff hn, hlength, hcount]
    decide

end Analysis

end CodeReview
