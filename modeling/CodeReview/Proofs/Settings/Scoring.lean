import CodeReview.Proofs.Score.Accepted
import CodeReview.Settings

/-!
The policy of some settings. A name that stands for a kind gives the policy of that kind with the
weights of the settings, if that policy is accepted; what the settings say of the other kind does
not matter. No other name gives a policy, and no weight is replaced by a default one.
-/

namespace CodeReview

namespace PolicyKind

theorem ofName?_eq_some_iff {name : String} {k : PolicyKind} :
    ofName? name = some k ↔ Text.strip (Text.toLower name) = k.name := by
  rw [ofName?]
  generalize Text.strip (Text.toLower name) = n
  by_cases hflat : n = "flat"
  · subst hflat
    cases k <;> decide
  by_cases hseverity : n = "severity"
  · subst hseverity
    cases k <;> decide
  · simp only [beq_iff_eq, hflat, hseverity, if_false]
    cases k with
    | flat => simpa [PolicyKind.name] using hflat
    | severity => simpa [PolicyKind.name] using hseverity

theorem ofName?_name (k : PolicyKind) : ofName? k.name = some k := by
  rw [ofName?_eq_some_iff]
  cases k <;> decide +kernel

theorem ofName?_eq_none_iff {name : String} :
    ofName? name = none ↔ ∀ k : PolicyKind, Text.strip (Text.toLower name) ≠ k.name := by
  simp only [Option.eq_none_iff_forall_ne_some, ne_eq, ofName?_eq_some_iff]

end PolicyKind

namespace Settings

def policyName (s : Settings) (name : String) : String :=
  if name.isEmpty then s.scoringPolicy else name

def policyOf (s : Settings) : PolicyKind → Policy
  | .flat => .flat ⟨s.flatIssuePenalty, s.flatSuggestionPenalty⟩
  | .severity => .severity
      ⟨s.severityCritical, s.severityHigh, s.severityMedium, s.severityLow, s.perSuggestion⟩

theorem policyOf_injective (s : Settings) : Function.Injective s.policyOf := by
  intro k k' h
  cases k <;> cases k' <;> first | rfl | cases h

def weightsFor (s : Settings) : PolicyKind → Json
  | .flat => s.flatWeights
  | .severity => s.severityWeights

theorem optional_weight {j : Json} {name : String} {d x w : Binary64}
    (hfield : j.field? name = some (.float x))
    (h : Check.optional j name d Check.weight = .valid w) : w = x := by
  simp only [Check.optional, hfield, Checked.at_eq_valid, Check.weight, Check.number,
    Checked.bind] at h
  split at h
  · cases h
    rfl
  · cases h

theorem checkFlat_flatWeights {s : Settings} {p : Policy}
    (h : Policy.checkFlat s.flatWeights = .valid p) : p = s.policyOf .flat := by
  simp only [Policy.checkFlat, Checked.seq_eq_valid, Checked.map_eq_valid] at h
  obtain ⟨_, suggestion, ⟨_, issue, ⟨_, -, rfl⟩, hi, rfl⟩, hs, rfl⟩ := h
  rw [optional_weight rfl hi, optional_weight rfl hs, policyOf]

theorem checkSeverity_severityWeights {s : Settings} {p : Policy}
    (h : Policy.checkSeverity s.severityWeights = .valid p) : p = s.policyOf .severity := by
  simp only [Policy.checkSeverity, Checked.seq_eq_valid, Checked.map_eq_valid] at h
  obtain ⟨_, suggestion, ⟨_, low, ⟨_, medium, ⟨_, high, ⟨_, critical, ⟨_, -, rfl⟩, hc, rfl⟩,
    hh, rfl⟩, hm, rfl⟩, hl, rfl⟩, hs, rfl⟩ := h
  rw [optional_weight rfl hc, optional_weight rfl hh, optional_weight rfl hm,
    optional_weight rfl hl, optional_weight rfl hs, policyOf]

theorem eq_policyOf_of_ofWeights {s : Settings} {k : PolicyKind} {p : Policy}
    (h : Policy.ofWeights k (s.weightsFor k) = .ok p) : p = s.policyOf k := by
  cases k with
  | flat =>
    simp only [Policy.ofWeights, weightsFor] at h
    split at h
    · next hc =>
      cases h
      exact checkFlat_flatWeights hc
    · cases h
  | severity =>
    simp only [Policy.ofWeights, weightsFor] at h
    split at h
    · next hc =>
      cases h
      exact checkSeverity_severityWeights hc
    · cases h

theorem ofWeights_of_accepted {s : Settings} {k : PolicyKind} (h : (s.policyOf k).Accepted) :
    Policy.ofWeights k (s.weightsFor k) = .ok (s.policyOf k) := by
  cases k with
  | flat =>
    have hi := Policy.weight_float (h s.flatIssuePenalty (by simp [policyOf, Policy.weights]))
    have hs := Policy.weight_float (h s.flatSuggestionPenalty (by simp [policyOf, Policy.weights]))
    simp [Policy.ofWeights, weightsFor, policyOf, flatWeights, Policy.checkFlat, Policy.checkKind,
      Check.optional, Json.field?, hi, hs, Checked.at_, Functor.map, Seq.seq, Checked.both,
      Checked.map]
  | severity =>
    have hc := Policy.weight_float (h s.severityCritical (by simp [policyOf, Policy.weights]))
    have hh := Policy.weight_float (h s.severityHigh (by simp [policyOf, Policy.weights]))
    have hm := Policy.weight_float (h s.severityMedium (by simp [policyOf, Policy.weights]))
    have hl := Policy.weight_float (h s.severityLow (by simp [policyOf, Policy.weights]))
    have hs := Policy.weight_float (h s.perSuggestion (by simp [policyOf, Policy.weights]))
    simp [Policy.ofWeights, weightsFor, policyOf, severityWeights, Policy.checkSeverity,
      Policy.checkKind, Check.optional, Json.field?, hc, hh, hm, hl, hs, Checked.at_, Functor.map,
      Seq.seq, Checked.both, Checked.map]

theorem scoring_eq (s : Settings) (name : String) :
    s.scoring (some name) = match PolicyKind.ofName? (s.policyName name) with
      | none => .error (.unknownName (s.policyName name))
      | some k => Policy.ofWeights k (s.weightsFor k) := by
  have hname : s.scoring (some name) =
      if Text.strip (Text.toLower (s.policyName name)) == "flat"
      then Policy.ofName (s.policyName name) s.flatWeights
      else Policy.ofName (s.policyName name) s.severityWeights := rfl
  rw [hname, Policy.ofName, Policy.ofName]
  generalize s.policyName name = n
  by_cases hflat : (Text.strip (Text.toLower n) == "flat") = true
  · simp only [PolicyKind.ofName?, hflat, if_true, weightsFor]
  · by_cases hsev : (Text.strip (Text.toLower n) == "severity") = true
    · simp only [PolicyKind.ofName?, hflat, hsev, if_true, if_false, weightsFor, Bool.false_eq_true]
    · simp only [PolicyKind.ofName?, hflat, hsev, if_false, Bool.false_eq_true]

theorem scoring_eq_ok_iff {s : Settings} {name : String} {p : Policy} :
    s.scoring (some name) = .ok p ↔ ∃ k, PolicyKind.ofName? (s.policyName name) = some k ∧
      p = s.policyOf k ∧ p.Accepted := by
  rw [scoring_eq]
  cases PolicyKind.ofName? (s.policyName name) with
  | none => simp
  | some k =>
    simp only [Option.some.injEq, exists_eq_left']
    constructor
    · exact fun h => ⟨eq_policyOf_of_ofWeights h, Policy.accepted_of_ofWeights h⟩
    · rintro ⟨rfl, h⟩
      exact ofWeights_of_accepted h

theorem scoring_eq_unknownName_iff {s : Settings} {name n : String} :
    s.scoring (some name) = .error (.unknownName n) ↔
      PolicyKind.ofName? (s.policyName name) = none ∧ n = s.policyName name := by
  rw [scoring_eq]
  cases PolicyKind.ofName? (s.policyName name) with
  | none => simp [eq_comm]
  | some k =>
    have hne : Policy.ofWeights k (s.weightsFor k) ≠ .error (.unknownName n) := by
      cases k <;> simp only [Policy.ofWeights] <;> split <;> simp
    simp [hne]

theorem scoring_eq_invalidWeights {s : Settings} {name : String} {k : PolicyKind}
    {es : List FieldError} (h : s.scoring (some name) = .error (.invalidWeights k es)) :
    PolicyKind.ofName? (s.policyName name) = some k ∧ ¬(s.policyOf k).Accepted := by
  rw [scoring_eq] at h
  cases hkind : PolicyKind.ofName? (s.policyName name) with
  | none =>
    rw [hkind] at h
    cases h
  | some k' =>
    rw [hkind] at h
    obtain rfl : k' = k := by
      cases k' <;> simp only [Policy.ofWeights] at h <;> split at h <;> cases h <;> rfl
    refine ⟨rfl, fun haccepted => ?_⟩
    dsimp only at h
    rw [ofWeights_of_accepted haccepted] at h
    cases h

def meantName (s : Settings) : Option String → String
  | none => s.scoringPolicy
  | some name => s.policyName name

theorem meantName_eq_policyName (s : Settings) (name : Option String) :
    s.meantName name = s.policyName (name.getD "") := by
  cases name <;> rfl

theorem scoring_eq_some (s : Settings) (name : Option String) :
    s.scoring name = s.scoring (some (name.getD "")) := by
  cases name <;> rfl

theorem accepted_of_scoring {s : Settings} {name : Option String} {p : Policy}
    (h : s.scoring name = .ok p) : p.Accepted := by
  rw [scoring_eq_some] at h
  obtain ⟨_, _, _, haccepted⟩ := scoring_eq_ok_iff.1 h
  exact haccepted

theorem scoring_name {s : Settings} {k : PolicyKind} (h : (s.policyOf k).Accepted) :
    s.scoring (some k.name) = .ok (s.policyOf k) := by
  refine scoring_eq_ok_iff.2 ⟨k, ?_, rfl, h⟩
  have hname : s.policyName k.name = k.name := by cases k <;> rfl
  rw [hname, PolicyKind.ofName?_name]

theorem scoring_none {s : Settings} {k : PolicyKind}
    (hname : PolicyKind.ofName? s.scoringPolicy = some k) (h : (s.policyOf k).Accepted) :
    s.scoring none = .ok (s.policyOf k) := by
  rw [scoring_eq_some]
  exact scoring_eq_ok_iff.2 ⟨k, hname, rfl, h⟩

theorem scoring_scoringPolicy (s : Settings) : s.scoring (some s.scoringPolicy) = s.scoring none := by
  rw [scoring_eq_some s none, scoring_eq, scoring_eq]
  have hname : s.policyName s.scoringPolicy = s.policyName "" := ite_self _
  rw [Option.getD_none, hname]

/-- The configured weights are kept under every name. What is not the name of a kind, in lower case
and without the white space around it, is refused. All else gives the policy of the kind with the
weights that are configured for it, and the name is never taken for that of the other kind. -/
theorem scoring_keeps_weights (s : Settings) (name : Option String) :
    (∀ n, s.scoring name = .error (.unknownName n) ↔
      n = s.meantName name ∧ ∀ k : PolicyKind, Text.strip (Text.toLower n) ≠ k.name) ∧
    (∀ k : PolicyKind, Text.strip (Text.toLower (s.meantName name)) = k.name →
      s.scoring name = Policy.ofWeights k (s.weightsFor k) ∧
      ((s.policyOf k).Accepted → s.scoring name = .ok (s.policyOf k))) ∧
    ∀ (n : String) (k : PolicyKind),
      PolicyKind.ofName? n = some k ↔ Text.strip (Text.toLower n) = k.name := by
  rw [scoring_eq_some, meantName_eq_policyName]
  refine ⟨fun n => ?_, fun k hname => ?_, fun n k => PolicyKind.ofName?_eq_some_iff⟩
  · rw [scoring_eq_unknownName_iff, and_comm]
    refine and_congr_right fun hn => ?_
    rw [hn, PolicyKind.ofName?_eq_none_iff]
  · have hscoring : s.scoring (some (name.getD "")) = Policy.ofWeights k (s.weightsFor k) := by
      rw [scoring_eq, PolicyKind.ofName?_eq_some_iff.2 hname]
    exact ⟨hscoring, fun haccepted => hscoring.trans (ofWeights_of_accepted haccepted)⟩

def spelledFlat : Settings where
  scoringPolicy := " FLAT\n"
  flatIssuePenalty := 7

theorem scoring_keeps_flat_weights :
    Text.strip (Text.toLower (spelledFlat.meantName (some ""))) = PolicyKind.flat.name ∧
      (spelledFlat.policyOf .flat).Accepted ∧
      spelledFlat.scoring (some "") = .ok (.flat ⟨7, 5⟩) := by
  have hname : Text.strip (Text.toLower (spelledFlat.meantName (some ""))) =
      PolicyKind.flat.name := by decide +kernel
  have haccepted : (spelledFlat.policyOf .flat).Accepted := by decide +kernel
  have hscoring : spelledFlat.scoring (some "") = .ok (spelledFlat.policyOf .flat) :=
    ((scoring_keeps_weights spelledFlat (some "")).2.1 .flat hname).2 haccepted
  exact ⟨hname, haccepted, hscoring⟩

end Settings

end CodeReview
