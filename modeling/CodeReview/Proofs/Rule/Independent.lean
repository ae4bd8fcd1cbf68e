import CodeReview.Proofs.Rule.Count
import CodeReview.Proofs.Rule.Finding
import Mathlib.Data.List.Basic
import Mathlib.Data.List.Induction

/-!
The rules do not depend on each other. One rule more adds what it finds in the text by itself,
behind the findings of its side; so the analysis by two lists of rules, one after the other, has the
findings of the first and then those of the second, and leaving out some rules leaves out just their
findings.
-/

namespace CodeReview.Analysis

variable {content : String} {s : Side} {r : Rule} {rules : List Rule} {f : Finding}

def findings (a : Analysis) : Side → List Finding
  | .issue => a.issues
  | .suggestion => a.suggestions

def add (a : Analysis) : Side → Finding → Analysis
  | .issue, f => { a with issues := a.issues ++ [f] }
  | .suggestion, f => { a with suggestions := a.suggestions ++ [f] }

def addRule (content : String) (a : Analysis) (r : Rule) : Analysis :=
  (r.find? content.toList).elim a (a.add r.side)

theorem ofHits_concat (found : List (Rule × Finding)) (r : Rule) (f : Finding) :
    ofHits (found ++ [(r, f)]) = (ofHits found).add r.side f := by
  cases hs : r.side <;> simp [ofHits, onSide, add, hs]

theorem run_concat (rules : List Rule) (r : Rule) (content : String) :
    run (rules ++ [r]) content = addRule content (run rules content) r := by
  rw [run_eq_ofHits, run_eq_ofHits, addRule, hits, List.filterMap_append, ← hits]
  cases hf : r.find? content.toList with
  | none => simp [hf]
  | some f =>
    rw [List.filterMap_cons_some (b := (r, f)) (by rw [hf, Option.map_some]), List.filterMap_nil,
      ofHits_concat, Option.elim_some]

theorem run_eq_foldl (rules : List Rule) (content : String) :
    run rules content = rules.foldl (addRule content) {} := by
  induction rules using List.reverseRecOn with
  | nil => rw [run_eq_ofHits]; rfl
  | append_singleton rules r ih => rw [run_concat, ih, List.foldl_append, List.foldl_cons, List.foldl_nil]

theorem findings_addRule (content : String) (a : Analysis) (r : Rule) (s : Side) :
    (addRule content a r).findings s =
      a.findings s ++ if r.side = s then (r.find? content.toList).toList else [] := by
  rw [addRule]
  cases r.find? content.toList with
  | none => simp
  | some f => cases s <;> cases r.side <;> simp [add, findings]

theorem findings_foldl_addRule (rules : List Rule) (a : Analysis) :
    (rules.foldl (addRule content) a).findings s =
      a.findings s ++ (rules.foldl (addRule content) {}).findings s := by
  induction rules generalizing a with
  | nil => cases s <;> simp [findings]
  | cons r rules ih =>
    rw [List.foldl_cons, List.foldl_cons, ih, ih (addRule content {} r), findings_addRule,
      findings_addRule]
    cases s <;> simp [findings]

/-- The run: the findings of two lists of rules are those of the first and those of the second. -/
theorem findings_run_append (rules rules' : List Rule) (content : String) (s : Side) :
    (run (rules ++ rules') content).findings s =
      (run rules content).findings s ++ (run rules' content).findings s := by
  rw [run_eq_foldl, List.foldl_append, findings_foldl_addRule, ← run_eq_foldl, ← run_eq_foldl]

theorem findings_run_cons (r : Rule) (rules : List Rule) (content : String) (s : Side) :
    (run (r :: rules) content).findings s =
      (run [r] content).findings s ++ (run rules content).findings s :=
  findings_run_append [r] rules content s

theorem findings_run_singleton (r : Rule) (content : String) (s : Side) :
    (run [r] content).findings s =
      if r.side = s then (r.find? content.toList).toList else [] := by
  rw [run_eq_foldl, List.foldl_cons, List.foldl_nil, findings_addRule]
  cases s <;> rfl

theorem mem_findings_run_singleton_iff :
    f ∈ (run [r] content).findings s ↔ r.side = s ∧ r.find? content.toList = some f := by
  rw [findings_run_singleton]
  split
  · next hs => rw [Option.mem_toList, and_iff_right hs]
  · next hs => simp [hs]

theorem eq_findingAt_of_mem_run_singleton (h : f ∈ (run [r] content).findings s) :
    ∃ line, f = r.findingAt line :=
  Rule.rule_of_find? (mem_findings_run_singleton_iff.1 h).2

theorem length_run_singleton_le (r : Rule) (content : String) :
    (run [r] content).issues.length + (run [r] content).suggestions.length ≤ 1 := by
  have hissues := findings_run_singleton r content .issue
  have hsuggestions := findings_run_singleton r content .suggestion
  simp only [findings] at hissues hsuggestions
  rw [hissues, hsuggestions]
  cases r.side <;> cases r.find? content.toList <;> simp

theorem ids_run_sublist (rules : List Rule) (content : String) (s : Side) :
    (((run rules content).findings s).map (·.rule)).Sublist (rules.map Rule.id) := by
  have hid : ∀ r line, (Rule.findingAt r line).rule = r.id := fun _ _ => rfl
  cases s with
  | issue => exact (map_issues_run_sublist hid rules content).trans (List.filter_sublist.map _)
  | suggestion =>
    exact (map_suggestions_run_sublist hid rules content).trans (List.filter_sublist.map _)

theorem id_mem_kept_iff {keep : Rule → Bool} :
    r.id ∈ (Rule.battery.filter keep).map Rule.id ↔ keep r = true := by
  rw [List.mem_map_of_injective fun _ _ => Rule.id_injective, List.mem_filter,
    and_iff_right (Rule.mem_battery r)]

theorem filter_findings_run_singleton (keep : Rule → Bool) (r : Rule) (content : String)
    (s : Side) :
    ((run [r] content).findings s).filter
        (fun f => f.rule ∈ (Rule.battery.filter keep).map Rule.id) =
      if keep r then (run [r] content).findings s else [] := by
  have hrule : ∀ f ∈ (run [r] content).findings s, f.rule = r.id := by
    intro f hf
    obtain ⟨line, rfl⟩ := eq_findingAt_of_mem_run_singleton hf
    rfl
  split
  · next hkeep =>
    refine List.filter_eq_self.2 fun f hf => ?_
    rw [decide_eq_true_iff, hrule f hf, id_mem_kept_iff, hkeep]
  · next hkeep =>
    refine List.filter_eq_nil_iff.2 fun f hf => ?_
    rw [decide_eq_true_iff, hrule f hf, id_mem_kept_iff]
    exact hkeep

theorem findings_run_filter (keep : Rule → Bool) (rules : List Rule) (content : String)
    (s : Side) :
    (run (rules.filter keep) content).findings s =
      ((run rules content).findings s).filter
        fun f => f.rule ∈ (Rule.battery.filter keep).map Rule.id := by
  induction rules with
  | nil => cases s <;> simp [run_eq_foldl, findings]
  | cons r rules ih =>
    rw [findings_run_cons r rules, List.filter_append, filter_findings_run_singleton, ← ih,
      List.filter_cons]
    split
    · exact findings_run_cons r _ content s
    · rfl

/-- The rules are independent of each other: the findings of a list of rules are those of its parts
in their order, and each rule finds at most one thing, on its own side and with its own severity and
message. All rules together find at most one thing each, in the order of the battery; some of them
find just what is theirs of it. -/
theorem run_independent (content : String) :
    (∀ (rules rules' : List Rule) (s : Side), (run (rules ++ rules') content).findings s =
      (run rules content).findings s ++ (run rules' content).findings s) ∧
    (∀ r : Rule, (run [r] content).issues.length + (run [r] content).suggestions.length ≤ 1 ∧
      ∀ (s : Side), ∀ f ∈ (run [r] content).findings s,
        s = r.side ∧ f.rule = r.id ∧ f.severity = r.severity ∧ f.message = r.message) ∧
    (∀ s : Side,
      (((ofText content).findings s).map (·.rule)).Sublist (Rule.battery.map Rule.id) ∧
      (((ofText content).findings s).map (·.rule)).Nodup) ∧
    (ofText content).issues.length ≤ 4 ∧ (ofText content).suggestions.length ≤ 6 ∧
    (∀ (keep : Rule → Bool) (s : Side), (run (Rule.battery.filter keep) content).findings s =
      ((ofText content).findings s).filter
        fun f => f.rule ∈ (Rule.battery.filter keep).map Rule.id) := by
  refine ⟨fun rules rules' s => findings_run_append rules rules' content s,
    fun r => ⟨length_run_singleton_le r content, fun s f hf => ?_⟩, fun s => ?_,
    length_issues_ofText_le content, length_suggestions_ofText_le content,
    fun keep s => findings_run_filter keep Rule.battery content s⟩
  · have hside := (mem_findings_run_singleton_iff.1 hf).1
    obtain ⟨line, rfl⟩ := eq_findingAt_of_mem_run_singleton hf
    exact ⟨hside.symm, rfl, rfl, rfl⟩
  · have hids := ids_run_sublist Rule.battery content s
    have hdistinct : (Rule.battery.map Rule.id).Nodup := by decide
    exact ⟨hids, hids.nodup hdistinct⟩

end CodeReview.Analysis
