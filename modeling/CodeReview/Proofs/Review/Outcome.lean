import CodeReview.Proofs.Score.Penalty
import CodeReview.Proofs.Text.Trim
import CodeReview.Review.Batch

/-!
What comes of the review of a file: a failed review, or the review of an analysis, which there is
exactly where the penalty of the analysis is a finite number. Beside the review by rules alone an
assistant makes it fail, adds its remarks as one suggestion, or changes nothing.
-/

namespace CodeReview.Review

open Text

variable {Q A : Type}

/-- The review of a file, where each answer depends on its question alone. -/
def outcome (o : ReviewOptions Q A) (s : SourceFile) (reply : Q → A) :
    Except Binary64.NotInteger Review :=
  ((ofSource o s).result reply).outcome

/-- What an assistant says of a file, if it is asked: a blank file is not shown to it. -/
def answer? (o : ReviewOptions Q A) (s : SourceFile) (reply : Q → A) :
    Option (Except AssistantFailure Json) :=
  if isBlankText s.content then none
  else o.assistant?.map fun a =>
    (a.ask s.content (Language.nameFor s.name) s.name).result reply

def found (o : ReviewOptions Q A) (s : SourceFile) (reply : Q → A) :
    Except AssistantFailure Analysis :=
  if o.rejectEmpty && isBlankText s.content then .error (.foreseen emptyContentMessage)
  else match answer? o s reply with
    | none => .ok (Analysis.ofText s.content)
    | some r => (remarks r).map (withRemarks (Analysis.ofText s.content))

theorem outcome_eq (o : ReviewOptions Q A) (s : SourceFile) (reply : Q → A) :
    outcome o s reply = match found o s reply with
      | .ok a => ofAnalysis o.policy s.name a
      | .error f => .ok (failure s.name (Language.nameFor s.name) f.reason) := by
  simp only [outcome, ofSource, found, answer?]
  by_cases hr : (o.rejectEmpty && isBlankText s.content) = true
  · simp only [hr, if_true, Dialogue.result, failedRun]
  · simp only [hr, Bool.false_eq_true, if_false]
    cases ha : o.assistant? with
    | none => simp only [Option.map_none, ite_self, Dialogue.result, scoredRun]
    | some a =>
      by_cases hb : isBlankText s.content = true
      · simp only [hb, if_true, Dialogue.result, scoredRun]
      · simp only [hb, Bool.false_eq_true, if_false, Dialogue.result_bind, Option.map_some]
        generalize (a.ask _ _ _).result reply = answer
        cases remarks answer with
        | error f => simp only [Dialogue.result, failedRun, Except.map]
        | ok t => simp only [Dialogue.result, scoredRun, Except.map]

theorem outcome_of_found_error {o : ReviewOptions Q A} {s : SourceFile} {reply : Q → A}
    {f : AssistantFailure} (h : found o s reply = .error f) :
    outcome o s reply = .ok (failure s.name (Language.nameFor s.name) f.reason) := by
  rw [outcome_eq, h]

theorem outcome_of_found_ok {o : ReviewOptions Q A} {s : SourceFile} {reply : Q → A}
    {a : Analysis} (h : found o s reply = .ok a) :
    outcome o s reply = ofAnalysis o.policy s.name a := by
  rw [outcome_eq, h]

theorem questions_ofSource (o : ReviewOptions Q A) (s : SourceFile) (reply : Q → A) :
    (ofSource o s).questions reply =
      if isBlankText s.content then []
      else match o.assistant? with
        | none => []
        | some a => (a.ask s.content (Language.nameFor s.name) s.name).questions reply := by
  simp only [ofSource]
  by_cases hb : isBlankText s.content = true
  · cases hr : o.rejectEmpty <;> cases ha : o.assistant? <;>
      simp [hb, Dialogue.questions]
  · cases ha : o.assistant? <;>
      simp [hb, Dialogue.questions, Dialogue.questions_bind]

theorem ofAnalysis_eq_ok {p : Policy} {path : String} {a : Analysis} {r : Review} :
    ofAnalysis p path a = .ok r ↔ ∃ score, p.score a = .ok score ∧ r =
      { filename := path
        language := Language.nameFor path
        score := score
        issues := a.issues
        suggestions := a.suggestions
        summary := (Summary.ofScore score.val a.hasCritical).text } := by
  simp only [ofAnalysis]
  cases h : p.score a with
  | error e => simp [Except.map]
  | ok score =>
    simp only [Except.map, Except.ok.injEq, exists_eq_left']
    exact eq_comm

theorem ofAnalysis_eq_error {p : Policy} {path : String} {a : Analysis} {e : Binary64.NotInteger} :
    ofAnalysis p path a = .error e ↔ p.score a = .error e := by
  simp only [ofAnalysis]
  cases h : p.score a <;> simp [Except.map]

theorem filename_of_outcome {o : ReviewOptions Q A} {s : SourceFile} {reply : Q → A} {r : Review}
    (h : outcome o s reply = .ok r) : r.filename = s.name := by
  cases hfound : found o s reply with
  | error f =>
    rw [outcome_of_found_error hfound] at h
    cases h
    rfl
  | ok a =>
    rw [outcome_of_found_ok hfound] at h
    obtain ⟨score, -, rfl⟩ := ofAnalysis_eq_ok.1 h
    rfl

end CodeReview.Review
