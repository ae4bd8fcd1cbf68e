import CodeReview.Rule.Battery

/-!
The findings of an analysis, by their rules. An analysis has a finding of a rule exactly where the
rule has it in the text, and no other findings.
-/

namespace CodeReview

namespace Rule

theorem ofId?_id (r : Rule) : ofId? r.id = some r := by
  cases r <;> decide

theorem id_injective {r s : Rule} (h : r.id = s.id) : r = s := by
  have hr := ofId?_id r
  rw [h, ofId?_id s] at hr
  exact (Option.some.inj hr).symm

theorem rule_of_find? {r : Rule} {t : List Char} {f : Finding} (h : r.find? t = some f) :
    ∃ line, f = r.findingAt line := by
  rw [find?] at h
  split at h
  · obtain ⟨n, -, rfl⟩ := Option.map_eq_some_iff.1 h
    exact ⟨some n, rfl⟩
  · split at h
    · cases h
      exact ⟨none, rfl⟩
    · cases h

theorem line_of_find? {r : Rule} (hr : r.pattern? = none) {t : List Char} {f : Finding}
    (h : r.find? t = some f) : f.line = none := by
  rw [find?, hr] at h
  obtain ⟨-, hf⟩ := Option.ite_none_right_eq_some.1 h
  cases hf
  rfl

theorem find?_nil (r : Rule) : r.find? [] = none := by
  cases r <;> decide +kernel

end Rule

namespace Analysis

def Reports (a : Analysis) (r : Rule) (f : Finding) : Prop :=
  f.rule = r.id ∧ (f ∈ a.issues ∨ f ∈ a.suggestions)

theorem mem_onSide_hits_iff {s : Side} {rules : List Rule} {t : List Char} {f : Finding} :
    f ∈ onSide s (hits rules t) ↔ ∃ r ∈ rules, r.side = s ∧ r.find? t = some f := by
  simp only [onSide, hits, List.mem_map, List.mem_filter, List.mem_filterMap,
    Option.map_eq_some_iff, beq_iff_eq]
  constructor
  · rintro ⟨_, ⟨⟨r, hr, g, hg, rfl⟩, hs⟩, rfl⟩
    exact ⟨r, hr, hs, hg⟩
  · rintro ⟨r, hr, hs, hf⟩
    exact ⟨(r, f), ⟨⟨r, hr, f, hf, rfl⟩, hs⟩, rfl⟩

theorem mem_findings_ofText_iff {content : String} {f : Finding} :
    (f ∈ (ofText content).issues ∨ f ∈ (ofText content).suggestions) ↔
      content ≠ "" ∧ ∃ r : Rule, r.find? content.toList = some f := by
  by_cases hempty : content = ""
  · subst hempty
    simp [ofText, run, ofHits, onSide]
  · have hne : content.isEmpty = false := by simpa using hempty
    simp only [ofText, run, ofHits, hne, Bool.false_eq_true, if_false, mem_onSide_hits_iff]
    constructor
    · rintro (⟨r, -, -, hf⟩ | ⟨r, -, -, hf⟩)
      · exact ⟨hempty, r, hf⟩
      · exact ⟨hempty, r, hf⟩
    · rintro ⟨-, r, hf⟩
      cases hs : r.side with
      | issue => exact .inl ⟨r, Rule.mem_battery r, hs, hf⟩
      | suggestion => exact .inr ⟨r, Rule.mem_battery r, hs, hf⟩

theorem reports_ofText_iff {content : String} {r : Rule} {f : Finding} :
    (ofText content).Reports r f ↔ content ≠ "" ∧ r.find? content.toList = some f := by
  rw [Reports, mem_findings_ofText_iff]
  constructor
  · rintro ⟨hrule, hne, r', hf⟩
    obtain ⟨line, rfl⟩ := Rule.rule_of_find? hf
    rw [← Rule.id_injective (r := r') (s := r) hrule]
    exact ⟨hne, hf⟩
  · rintro ⟨hne, hf⟩
    obtain ⟨line, rfl⟩ := Rule.rule_of_find? hf
    exact ⟨rfl, hne, r, hf⟩

theorem exists_reports_iff {content : String} {r : Rule} :
    (∃ f, (ofText content).Reports r f) ↔ (r.find? content.toList).isSome = true := by
  simp only [reports_ofText_iff, Option.isSome_iff_exists]
  refine exists_congr fun f => and_iff_right_of_imp fun hf => ?_
  rintro rfl
  rw [String.toList_empty, Rule.find?_nil] at hf
  cases hf

theorem exists_reports_iff_judges {content : String} {r : Rule} (hr : r.pattern? = none) :
    (∃ f, (ofText content).Reports r f) ↔ r.judges content.toList = true := by
  rw [exists_reports_iff, Rule.find?, hr]
  by_cases h : r.judges content.toList = true
  · simp [h]
  · simp [h]

end Analysis

end CodeReview
