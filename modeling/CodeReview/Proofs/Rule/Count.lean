import CodeReview.Proofs.Rule.Finding

/-!
The findings of an analysis beside its rules. On each side they are findings of some of the rules of
that side, at most one of each and in the order of the rules.
-/

namespace CodeReview.Analysis

theorem hits_nil (rules : List Rule) : hits rules [] = [] := by
  refine List.filterMap_eq_nil_iff.2 fun r _ => ?_
  rw [Rule.find?_nil, Option.map_none]

theorem run_eq_ofHits (rules : List Rule) (content : String) :
    run rules content = ofHits (hits rules content.toList) := by
  rw [run]
  split
  · next h =>
    rw [String.isEmpty_iff.1 h, String.toList_empty, hits_nil]
  · rfl

section

variable {β : Type} {g : Finding → β} {h : Rule → β}

theorem map_onSide_hits_sublist (hg : ∀ r line, g (Rule.findingAt r line) = h r) (s : Side)
    (rules : List Rule) (t : List Char) :
    ((onSide s (hits rules t)).map g).Sublist ((rules.filter fun r => r.side == s).map h) := by
  induction rules with
  | nil => exact List.Sublist.refl _
  | cons r rs ih =>
    cases hf : r.find? t with
    | none =>
      have hrest : hits (r :: rs) t = hits rs t := by simp [hits, hf]
      rw [hrest]
      exact ih.trans (((List.sublist_cons_self r rs).filter _).map h)
    | some f =>
      obtain ⟨line, rfl⟩ := Rule.rule_of_find? hf
      have hrest : hits (r :: rs) t = (r, r.findingAt line) :: hits rs t := by simp [hits, hf]
      rw [hrest, onSide, List.filter_cons, List.filter_cons]
      split
      · rw [List.map_cons, List.map_cons, List.map_cons, hg]
        exact ih.cons_cons _
      · exact ih

theorem map_issues_run_sublist (hg : ∀ r line, g (Rule.findingAt r line) = h r)
    (rules : List Rule) (content : String) :
    ((run rules content).issues.map g).Sublist
      ((rules.filter fun r => r.side == .issue).map h) := by
  rw [run_eq_ofHits]
  exact map_onSide_hits_sublist hg .issue rules content.toList

theorem map_suggestions_run_sublist (hg : ∀ r line, g (Rule.findingAt r line) = h r)
    (rules : List Rule) (content : String) :
    ((run rules content).suggestions.map g).Sublist
      ((rules.filter fun r => r.side == .suggestion).map h) := by
  rw [run_eq_ofHits]
  exact map_onSide_hits_sublist hg .suggestion rules content.toList

end

theorem length_issues_ofText_le (content : String) : (ofText content).issues.length ≤ 4 := by
  have hids := map_issues_run_sublist (fun r line => (rfl : (r.findingAt line).rule = r.id))
    Rule.battery content
  have hlen := hids.length_le
  rwa [List.length_map, List.length_map] at hlen

theorem length_suggestions_ofText_le (content : String) :
    (ofText content).suggestions.length ≤ 6 := by
  have hids := map_suggestions_run_sublist (fun r line => (rfl : (r.findingAt line).rule = r.id))
    Rule.battery content
  have hlen := hids.length_le
  rwa [List.length_map, List.length_map] at hlen

end CodeReview.Analysis
