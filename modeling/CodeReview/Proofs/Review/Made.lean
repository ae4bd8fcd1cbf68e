import CodeReview.Proofs.Review.Course
import CodeReview.Proofs.Rule.Finding
import CodeReview.Proofs.Rule.Occurrence
import CodeReview.Proofs.Text.Utf8

/-!
What reviews are made of, in whatever way the questions of a review are answered: a failed one of its
reason, any other of what the rules find and some remarks. So the number of a line in a review is no
larger than the file that it is about.
-/

namespace CodeReview

inductive Review.Made (p : Policy) (s : SourceFile) : Review → Prop
  | failed (reason : String) : Made p s (failure s.name (Language.nameFor s.name) reason)
  | scored {remarks : String} {r : Review}
      (review : ofAnalysis p s.name (withRemarks (Analysis.ofText s.content) remarks) = .ok r) :
      Made p s r

namespace Review

variable {Q A : Type} {o : ReviewOptions Q A} {s : SourceFile} {r : Review}

theorem made_of_course {answers : Nat → A} {k : Nat}
    (h : ((ofSource o s).course answers k).2.outcome = .ok r) : Made o.policy s r := by
  simp only [ofSource] at h
  split at h
  · simp only [Dialogue.course, failedRun, Except.ok.injEq] at h
    exact h ▸ .failed _
  · split at h
    · simp only [Dialogue.course, scoredRun] at h
      rw [← withRemarks_empty (Analysis.ofText s.content)] at h
      exact .scored h
    · split at h
      · simp only [Dialogue.course, scoredRun] at h
        rw [← withRemarks_empty (Analysis.ofText s.content)] at h
        exact .scored h
      · rw [Dialogue.course_bind_done] at h
        dsimp only at h
        split at h
        · simp only [failedRun, Except.ok.injEq] at h
          exact h ▸ .failed _
        · simp only [scoredRun] at h
          exact .scored h

theorem made_of_outcome {reply : Q → A} (h : outcome o s reply = .ok r) : Made o.policy s r := by
  cases hfound : found o s reply with
  | error f =>
    rw [outcome_of_found_error hfound] at h
    exact Except.ok.inj h ▸ .failed _
  | ok a =>
    rw [outcome_of_found_ok hfound] at h
    obtain ⟨remarks, rfl⟩ := exists_remarks_of_found hfound
    exact .scored h

end Review

inductive Slot.Makes (p : Policy) : Slot → Review → Prop
  | done (r : Review) : Makes p (.done r) r
  | source {s : SourceFile} {r : Review} (made : Review.Made p s r) : Makes p (.source s) r

namespace Slot

variable {Q A : Type} {o : ReviewOptions Q A} {slot : Slot} {r : Review}

theorem ComesTo.makes {answers : Nat → A} (h : ComesTo o answers slot r) :
    Makes o.policy slot r := by
  cases h with
  | done r => exact .done r
  | source reviewed => exact .source (Review.made_of_course reviewed)

theorem makes_of_outcome {reply : Q → A} (h : outcome o reply slot = .ok r) :
    Makes o.policy slot r := by
  cases slot with
  | done r' =>
    obtain rfl := Except.ok.inj h
    exact .done _
  | source s => exact .source (Review.made_of_outcome h)

end Slot

theorem Pattern.firstLine_le {p : Pattern} {t : List Char} {n : LineNumber}
    (h : p.firstLine t = some n) : n.val ≤ t.length := by
  obtain ⟨i, hi, hn⟩ := firstLine_eq_some_iff.1 h
  have hcount := List.count_le_length (a := '\n') (l := t.take i)
  rw [List.length_take] at hcount
  have hlt : i < t.length := hi.1.1
  omega

namespace Finding

theorem not_hasLongLine_of_no_line {f : Finding} (h : f.line = none) : f.hasLongLine = false := by
  rw [hasLongLine, h, Option.any_none]

theorem not_hasLongLine_of_le {f : Finding} {m : Nat} (hm : m < 2 ^ 63)
    (h : ∀ n, f.line = some n → n.val ≤ m) : f.hasLongLine = false := by
  rw [hasLongLine]
  cases hline : f.line with
  | none => rfl
  | some n =>
    have hsmall : n.val < 10 ^ 19 :=
      Nat.lt_of_le_of_lt (h n hline) (Nat.lt_of_lt_of_le hm (by decide))
    have hdigits : (Nat.toDigits 10 n.val).length ≤ 19 :=
      (Nat.length_toDigits_le_iff (by decide) (by decide)).2 hsmall
    rw [Option.any_some, decide_eq_false_iff_not, NumberNotation.maxDigits]
    omega

end Finding

theorem Rule.line_le_of_find? {r : Rule} {t : List Char} {f : Finding} (h : r.find? t = some f) :
    ∀ n, f.line = some n → n.val ≤ t.length := by
  intro n hn
  cases hp : r.pattern? with
  | none =>
    rw [line_of_find? hp h] at hn
    cases hn
  | some p =>
    rw [find?, hp] at h
    obtain ⟨m, hm, rfl⟩ := Option.map_eq_some_iff.1 h
    obtain rfl := Option.some.inj hn
    exact Pattern.firstLine_le hm

theorem Text.Utf8.length_le_length_encode (t : List Char) : t.length ≤ (encode t).length := by
  induction t with
  | nil => exact Nat.le_refl 0
  | cons c t ih =>
    have hone : 1 ≤ (encodeChar c).length := by
      unfold encodeChar
      dsimp only
      split_ifs <;> simp
    rw [encode_cons, List.length_append, List.length_cons]
    omega

theorem SourceFile.length_le_of_decode? {bytes : List UInt8} {content : String}
    (h : decode? bytes = some content) : content.toList.length ≤ bytes.length := by
  rw [decode?] at h
  split at h
  · cases h
  · obtain rfl := Option.some.inj h
    split
    · next t ht =>
      rw [String.toList_ofList, Text.Utf8.eq_encode_of_decode? ht]
      exact Text.Utf8.length_le_length_encode t
    · rw [String.toList_ofList, List.length_map]

namespace Review

variable {p : Policy} {s : SourceFile} {r : Review}

theorem not_hasLongLine_iff :
    r.hasLongLine = false ↔ ∀ f ∈ r.issues ++ r.suggestions, f.hasLongLine = false := by
  simp only [hasLongLine, List.any_eq_false, Bool.not_eq_true]

theorem not_hasLongLine_failure (filename language reason : String) :
    (failure filename language reason).hasLongLine = false := rfl

theorem Made.not_hasLongLine (h : Made p s r) (hsize : s.content.toList.length < 2 ^ 63) :
    r.hasLongLine = false := by
  cases h with
  | failed reason => exact not_hasLongLine_failure _ _ _
  | @scored remarks r review =>
    obtain ⟨score, -, rfl⟩ := ofAnalysis_eq_ok.1 review
    have hrules : ∀ f ∈ (Analysis.ofText s.content).issues ++ (Analysis.ofText s.content).suggestions,
        f.hasLongLine = false := by
      intro f hf
      obtain ⟨-, rule, hfind⟩ := Analysis.mem_findings_ofText_iff.1 (List.mem_append.1 hf)
      exact Finding.not_hasLongLine_of_le hsize (Rule.line_le_of_find? hfind)
    rw [not_hasLongLine_iff]
    dsimp only
    rw [withRemarks]
    split
    · exact hrules
    · rw [← List.append_assoc, List.forall_mem_append, List.forall_mem_singleton]
      exact ⟨hrules, Finding.not_hasLongLine_of_no_line rfl⟩

end Review

theorem Slot.Makes.not_hasLongLine {p : Policy} {name : String} {bytes : List UInt8} {r : Review}
    (h : Makes p (ofBytes name bytes) r) (hsize : bytes.length < 2 ^ 63) :
    r.hasLongLine = false := by
  rw [ofBytes, SourceFile.ofBytes] at h
  cases hdecode : SourceFile.decode? bytes with
  | none =>
    rw [hdecode] at h
    cases h
    exact Review.not_hasLongLine_failure _ _ _
  | some content =>
    rw [hdecode] at h
    cases h with
    | source made =>
      exact made.not_hasLongLine (Nat.lt_of_le_of_lt (SourceFile.length_le_of_decode? hdecode) hsize)

end CodeReview
