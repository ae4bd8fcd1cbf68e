import CodeReview.Proofs.Review.Finite

/-!
What an assistant changes. It is called once for a file that is not blank. Then the review fails,
with the reason that the assistant has, or its remarks stand behind the suggestions of the rules
and the score is no better, or the review is the one by rules alone.
-/

namespace CodeReview.Review

open Text

variable {Q A : Type} {o : ReviewOptions Q A} {s : SourceFile} {reply : Q → A}

theorem isBlankText_of_answer {r : Except AssistantFailure Json}
    (h : answer? o s reply = some r) : isBlankText s.content = false := by
  simp only [answer?] at h
  split at h
  · cases h
  · next hb => exact Bool.eq_false_iff.2 hb

theorem found_of_answer {r : Except AssistantFailure Json} (h : answer? o s reply = some r) :
    found o s reply = (remarks r).map (withRemarks (Analysis.ofText s.content)) := by
  simp [found, isBlankText_of_answer h, h]

theorem found_of_no_answer (hr : ¬(o.rejectEmpty = true ∧ isBlankText s.content = true))
    (h : answer? o s reply = none) : found o s reply = .ok (Analysis.ofText s.content) := by
  rw [← Bool.and_eq_true] at hr
  simp only [found, hr, h]
  rfl

theorem outcome_of_refused (hr : o.rejectEmpty = true) (hb : isBlankText s.content = true) :
    outcome o s reply = .ok (failure s.name (Language.nameFor s.name) "Code cannot be empty") := by
  have hfound : found o s reply = .error (.foreseen emptyContentMessage) := by
    simp [found, hr, hb]
  exact outcome_of_found_error hfound

theorem outcome_of_failed_call {f : AssistantFailure}
    (h : answer? o s reply = some (.error f)) :
    outcome o s reply = .ok (failure s.name (Language.nameFor s.name) f.reason) :=
  outcome_of_found_error (found_of_answer h)

theorem outcome_of_not_text {v : Json} (h : answer? o s reply = some (.ok v))
    (hv : ∀ t, v ≠ .str t) :
    outcome o s reply = .ok (failure s.name (Language.nameFor s.name)
      ("AttributeError: '" ++ v.kindName ++ "' object has no attribute 'strip'")) := by
  have hremarks : remarks (.ok v) = .error (.unforeseen "AttributeError"
      ("'" ++ v.kindName ++ "' object has no attribute 'strip'")) := by
    cases v with
    | str t => exact absurd rfl (hv t)
    | _ => rfl
  have hfound := found_of_answer h
  rw [hremarks] at hfound
  rw [outcome_of_found_error hfound]
  simp only [AssistantFailure.reason, ← String.append_assoc]
  rfl

theorem outcome_rules : outcome { policy := o.policy } s reply =
    ofAnalysis o.policy s.name (Analysis.ofText s.content) := by
  have hfound : found { policy := o.policy } s reply = .ok (Analysis.ofText s.content) := by
    simp [found, answer?]
  exact outcome_of_found_ok hfound

theorem outcome_of_blank_remarks {t : String} (h : answer? o s reply = some (.ok (.str t)))
    (ht : isBlankText t = true) : outcome o s reply = outcome { policy := o.policy } s reply := by
  have hfound : found o s reply = .ok (Analysis.ofText s.content) := by
    rw [found_of_answer h]
    simp [remarks, Except.map, withRemarks, isEmpty_strip, ht]
  rw [outcome_rules, outcome_of_found_ok hfound]

theorem outcome_of_no_answer (hr : ¬(o.rejectEmpty = true ∧ isBlankText s.content = true))
    (h : answer? o s reply = none) :
    outcome o s reply = outcome { policy := o.policy } s reply := by
  rw [outcome_rules, outcome_of_found_ok (found_of_no_answer hr h)]

/-- One more suggestion changes no other finding, and makes the score no better. -/
theorem ofAnalysis_of_one_more {p : Policy} (hp : p.Accepted) {path : String} {a b : Analysis}
    {f : Finding} (hissues : a.issues = b.issues)
    (hsuggestions : b.suggestions = a.suggestions ++ [f])
    (ha : (p.penalty a).isFinite = true) (hb : (p.penalty b).isFinite = true) {r₀ : Review}
    (hr₀ : ofAnalysis p path a = .ok r₀) :
    ∃ score, score ≤ r₀.score ∧ ofAnalysis p path b = .ok
      { r₀ with
        score := score
        suggestions := r₀.suggestions ++ [f]
        summary := (Summary.ofScore score.val
          (r₀.issues.any fun i => i.severity == .critical)).text } := by
  obtain ⟨score₀, hscore₀, hr⟩ := ofAnalysis_eq_ok.1 hr₀
  obtain ⟨score, hscore⟩ := Policy.exists_score hp hb
  have hmore : a.AtMost b := by
    constructor
    · simp only [hissues, List.Sublist.refl]
    · rw [hsuggestions, List.length_append]
      exact Nat.le_add_right _ _
  have hle : score ≤ score₀ := Policy.score_le hp (.refl hp) hmore ha hb hscore₀ hscore
  subst hr
  refine ⟨score, hle, ofAnalysis_eq_ok.2 ⟨score, hscore, ?_⟩⟩
  simp only [hissues, hsuggestions, Analysis.hasCritical]

theorem outcome_of_remarks (hp : o.policy.Accepted) (hfinite : o.policy.FiniteOn s.content)
    {t : String} (h : answer? o s reply = some (.ok (.str t))) (ht : isBlankText t = false)
    {r₀ : Review} (hr₀ : outcome { policy := o.policy } s reply = .ok r₀) :
    ∃ score, score ≤ r₀.score ∧ outcome o s reply = .ok
      { r₀ with
        score := score
        suggestions := r₀.suggestions ++ [remarkFinding (strip t)]
        summary := (Summary.ofScore score.val
          (r₀.issues.any fun f => f.severity == .critical)).text } := by
  have hfound : found o s reply = .ok (withRemarks (Analysis.ofText s.content) (strip t)) :=
    found_of_answer h
  have hbefore := hfinite ""
  have hafter := hfinite (strip t)
  rw [outcome_of_found_ok hfound]
  rw [outcome_rules] at hr₀
  rw [withRemarks_empty] at hbefore
  rw [withRemarks, isEmpty_strip, ht, if_neg Bool.false_ne_true] at hafter ⊢
  exact ofAnalysis_of_one_more hp (by rfl) (by rfl) hbefore hafter hr₀

theorem questions_direct {o : ReviewOptions AssistantCall (Except AssistantFailure Json)}
    (ha : o.assistant? = some .direct) (s : SourceFile)
    (reply : AssistantCall → Except AssistantFailure Json) :
    (ofSource o s).questions reply =
      if isBlankText s.content then []
      else [⟨s.content, Language.nameFor s.name, s.name⟩] := by
  rw [questions_ofSource, ha]
  rfl

/-- What an assistant can make of a review, beside the review `r₀` by rules alone: a failed review
for each of three reasons, `r₀` with one more suggestion and a score that is no better, or `r₀`. -/
theorem assistant_changes (hp : o.policy.Accepted) (hfinite : o.policy.FiniteOn s.content)
    (reply : Q → A) :
    ∃ r₀, outcome { policy := o.policy } s reply = .ok r₀ ∧
    (o.rejectEmpty = true → isBlankText s.content = true → outcome o s reply =
      .ok (failure s.name (Language.nameFor s.name) "Code cannot be empty")) ∧
    (∀ f, answer? o s reply = some (.error f) → outcome o s reply =
      .ok (failure s.name (Language.nameFor s.name) (match f with
        | .foreseen message => message
        | .unforeseen kind message => kind ++ ": " ++ message))) ∧
    (∀ v, answer? o s reply = some (.ok v) → (∀ t, v ≠ .str t) → outcome o s reply =
      .ok (failure s.name (Language.nameFor s.name)
        ("AttributeError: '" ++ v.kindName ++ "' object has no attribute 'strip'"))) ∧
    (∀ t, answer? o s reply = some (.ok (.str t)) → isBlankText t = false →
      ∃ score, score ≤ r₀.score ∧ outcome o s reply = .ok
        { r₀ with
          score := score
          suggestions := r₀.suggestions ++
            [{ severity := .low, message := strip t, line := none, rule := "ai-review" }]
          summary := (Summary.ofScore score.val
            (r₀.issues.any fun i => i.severity == .critical)).text }) ∧
    (¬(o.rejectEmpty = true ∧ isBlankText s.content = true) →
      (∀ r, answer? o s reply = some r → ∃ t, r = .ok (.str t) ∧ isBlankText t = true) →
      outcome o s reply = .ok r₀) ∧
    (∀ callReply : AssistantCall → Except AssistantFailure Json,
      (ofSource { policy := o.policy, rejectEmpty := o.rejectEmpty, assistant? := some .direct }
          s).questions callReply =
        if isBlankText s.content then []
        else [⟨s.content, Language.nameFor s.name, s.name⟩]) := by
  obtain ⟨r₀, hr₀⟩ := exists_review (o := { policy := o.policy }) hp hfinite reply
  refine ⟨r₀, hr₀, outcome_of_refused, ?_, fun v hv => outcome_of_not_text hv, ?_, ?_, ?_⟩
  · intro f hf
    rw [outcome_of_failed_call hf]
    cases f <;> rfl
  · intro t hanswer ht
    exact outcome_of_remarks hp hfinite hanswer ht hr₀
  · intro hr hanswer
    rw [← hr₀]
    cases h : answer? o s reply with
    | none => exact outcome_of_no_answer hr h
    | some r =>
      obtain ⟨t, rfl, ht⟩ := hanswer r h
      exact outcome_of_blank_remarks h ht
  · exact questions_direct rfl s

theorem assistant_changes_eval_call :
    Policy.default.Accepted ∧ Policy.default.FiniteOn "eval(x)" ∧
    ∃ r₀ : Review, ∃ score, score ≤ r₀.score ∧
      outcome ({ assistant? := some .direct } :
          ReviewOptions AssistantCall (Except AssistantFailure Json))
        ⟨"a.js", "eval(x)"⟩ (fun _ => .ok (.str " Fine. ")) = .ok
        { r₀ with
          score := score
          suggestions := r₀.suggestions ++
            [{ severity := .low, message := strip " Fine. ", line := none, rule := "ai-review" }]
          summary := (Summary.ofScore score.val
            (r₀.issues.any fun i => i.severity == .critical)).text } := by
  have hp : Policy.default.Accepted := by decide +kernel
  have hfinite := Policy.finiteOn_of_bounded hp (by decide +kernel) "eval(x)"
  refine ⟨hp, hfinite, ?_⟩
  obtain ⟨r₀, -, -, -, -, hremarks, -⟩ :=
    assistant_changes (o := { assistant? := some .direct }) (s := ⟨"a.js", "eval(x)"⟩) hp hfinite
      (fun _ => .ok (.str " Fine. "))
  have hanswer : answer? ({ assistant? := some .direct } :
      ReviewOptions AssistantCall (Except AssistantFailure Json)) ⟨"a.js", "eval(x)"⟩
      (fun _ => .ok (.str " Fine. ")) = some (.ok (.str " Fine. ")) := by
    have hblank : isBlankText "eval(x)" = false := by decide +kernel
    rw [answer?, hblank]
    rfl
  exact ⟨r₀, hremarks _ hanswer (by decide +kernel)⟩

/-- An assistant that returns an object makes the review fail: it is not the one by rules alone. -/
theorem not_rules_alone_of_object :
    Policy.default.Accepted ∧ Policy.default.FiniteOn "eval(x)" ∧
    ∃ r₀, outcome ({} : ReviewOptions AssistantCall (Except AssistantFailure Json))
        ⟨"a.js", "eval(x)"⟩ (fun _ => .ok (.obj [])) = .ok r₀ ∧
      outcome ({ assistant? := some .direct } :
          ReviewOptions AssistantCall (Except AssistantFailure Json))
        ⟨"a.js", "eval(x)"⟩ (fun _ => .ok (.obj [])) =
          .ok (failure "a.js" "javascript"
            "AttributeError: 'dict' object has no attribute 'strip'") ∧
      failure "a.js" "javascript" "AttributeError: 'dict' object has no attribute 'strip'" ≠ r₀ := by
  have hp : Policy.default.Accepted := by decide +kernel
  have hfinite := Policy.finiteOn_of_bounded hp (by decide +kernel) "eval(x)"
  obtain ⟨r₀, hr₀⟩ := exists_review (s := ⟨"a.js", "eval(x)"⟩)
    (o := ({} : ReviewOptions AssistantCall (Except AssistantFailure Json))) hp hfinite
    fun _ => .ok (.obj [])
  have hanswer : answer? ({ assistant? := some .direct } :
      ReviewOptions AssistantCall (Except AssistantFailure Json)) ⟨"a.js", "eval(x)"⟩
      (fun _ => .ok (.obj [])) = some (.ok (.obj [])) := by
    have hblank : isBlankText "eval(x)" = false := by decide +kernel
    rw [answer?, hblank]
    rfl
  have hlanguage : Language.nameFor "a.js" = "javascript" := by decide +kernel
  have hfailed := outcome_of_not_text hanswer nofun
  rw [hlanguage] at hfailed
  refine ⟨hp, hfinite, r₀, hr₀, hfailed, fun heq => ?_⟩
  -- a review by rules alone tells of no error
  rw [outcome_rules (o := ({} : ReviewOptions AssistantCall (Except AssistantFailure Json)))] at hr₀
  obtain ⟨score, -, hr⟩ := ofAnalysis_eq_ok.1 hr₀
  rw [hr] at heq
  cases congrArg Review.error heq

end CodeReview.Review
