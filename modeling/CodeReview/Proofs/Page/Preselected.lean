import CodeReview.Proofs.CommandLine.Stages
import CodeReview.Proofs.Page.Agreement

/-!
The policy that is chosen for a user who chooses none. The command line passes the configured name
on and takes whatever it stands for. The page preselects a kind by the name as it is spelled, so it
is the configured one only for some of the spellings.
-/

namespace CodeReview

namespace CommandLine

/-- No option of the command line chooses a policy. -/
def LeavesPolicy (args : List String) : Prop :=
  ∃ target w, CommandWords.ofArguments args = .ok (target, w) ∧ w.has .policy = false

/-- The command line accepts its policy, and every run that comes to files reviews them under it. -/
structure ReviewsUnder (s : Settings) (args : List String) (p : Policy) : Prop where
  accepts : ∃ a, Arguments.read s args = .ok a ∧ s.scoring (some a.policy) = .ok p
  reviews : ∀ {environment : List (String × String)} {t : FileTree} {l : Logger} {a : Arguments}
    {o : ReviewOptions Request Delivery} {files : List Path},
    loadSettings environment t = .ok (.valid s) → Reaches environment args t l a o files →
    o.policy = p ∧
      ∀ host clock, ∃ l', run host environment args clock t l =
        reviewFiles host o a clock t l' files

theorem policy_of_not_has {w : CommandWords} (h : w.has .policy = false) (s : Settings)
    (target : String) : (Arguments.ofWords s target w).policy = s.scoringPolicy := by
  rw [CommandWords.has, Option.isSome_eq_false_iff, Option.isNone_iff_eq_none] at h
  change w.text .policy s.scoringPolicy = s.scoringPolicy
  rw [CommandWords.text, h]

theorem reviewsUnder_of_scoring {s : Settings} {args : List String} {a : Arguments} {p : Policy}
    (hread : Arguments.read s args = .ok a) (hp : s.scoring (some a.policy) = .ok p) :
    ReviewsUnder s args p where
  accepts := ⟨a, hread, hp⟩
  reviews {environment t l a' o files} hload h := by
    refine ⟨?_, h.run_eq⟩
    obtain ⟨s', hload', hread', hconf⟩ := h.configured
    obtain ⟨rfl, rfl⟩ := Given.unique ⟨hload, hread⟩ ⟨hload', hread'⟩
    exact Except.ok.inj ((Settings.scoring_of_configure hconf).symm.trans hp)

theorem reviewsUnder_of_leavesPolicy {s : Settings} {args : List String} {p : Policy}
    (hargs : LeavesPolicy args) (hp : s.scoring none = .ok p) : ReviewsUnder s args p := by
  obtain ⟨target, w, hwords, hpolicy⟩ := hargs
  refine reviewsUnder_of_scoring (a := Arguments.ofWords s target w) ?_ ?_
  · rw [Arguments.read, hwords]
    rfl
  · rw [policy_of_not_has hpolicy, Settings.scoring_scoringPolicy, hp]

end CommandLine

namespace Page

/-- What comes of a click under a policy: the uploads are reviewed, or the assistant is asked for and
there is no key for it. -/
inductive Clicked (s : Settings) (i : PageInput) (state : PageState) (p : Policy) :
    Dialogue Request Delivery PageRun → Prop
  | reviewed {o : ReviewOptions Request Delivery} (configured : s.configure (choices s i) = .ok o)
      (policy : o.policy = p) :
      Clicked s i state p (reviewUploads o s.maxWorkers i (controls s) state)
  | keyless (ai : i.ai = true) (key : s.client? (choices s i) = none) :
      Clicked s i state p (.done
        { elements := controls s ++ [.text .error Client.missingKeyMessage, .stop], state := state })

/-- The page accepts its policy, and every click reviews under it. -/
structure ReviewsUnder (s : Settings) (i : PageInput) (p : Policy) : Prop where
  accepts : s.scoring (some (choices s i).policy) = .ok p
  clicked : ∀ {sources : SettingsSources}, Settings.load sources = .valid s → Clicks i →
    ∀ describe state, Clicked s i state p (visit describe sources i state)

theorem reviewsUnder_of_scoring {s : Settings} {i : PageInput} {p : Policy}
    (hp : s.scoring (some (choices s i).policy) = .ok p) : ReviewsUnder s i p where
  accepts := hp
  clicked {sources} hload hclicks describe state := by
    rw [hclicks.visit_eq hload]
    cases hai : i.ai with
    | false =>
      have hconf := Settings.configure_of_scoring hp hai
      rw [hconf]
      exact .reviewed hconf rfl
    | true =>
      cases hclient : s.client? (choices s i) with
      | none =>
        rw [Settings.configure_of_no_client hp hai hclient]
        exact .keyless hai hclient
      | some client =>
        have hconf := Settings.configure_of_client hp hai hclient
        rw [hconf]
        exact .reviewed hconf rfl

def preselected (s : Settings) : PolicyKind :=
  if s.scoringPolicy = "severity" then .severity else .flat

theorem defaultPolicy_eq (s : Settings) : defaultPolicy s = (preselected s).name := by
  rw [defaultPolicy, preselected]
  by_cases h : s.scoringPolicy = "severity"
  · simp only [h, beq_self_eq_true, if_true, PolicyKind.name]
  · simp only [beq_iff_eq, h, if_false, PolicyKind.name]

theorem reviewsUnder_of_untouched {s : Settings} {i : PageInput} (hi : i.policy = none)
    (h : (s.policyOf (preselected s)).Accepted) :
    ReviewsUnder s i (s.policyOf (preselected s)) := by
  refine reviewsUnder_of_scoring ?_
  have hname : (choices s i).policy = (preselected s).name := by
    rw [choices, hi, Option.getD_none, defaultPolicy_eq]
  rw [hname, Settings.scoring_name h]

theorem preselected_eq_iff {s : Settings} {k : PolicyKind}
    (hname : PolicyKind.ofName? s.scoringPolicy = some k) :
    preselected s = k ↔ k = .flat ∨ s.scoringPolicy = "severity" := by
  rw [preselected]
  by_cases h : s.scoringPolicy = "severity"
  · have hk : k = .severity := by
      rw [h] at hname
      exact Option.some.inj (hname.symm.trans (PolicyKind.ofName?_name .severity))
    simp [h, hk]
  · simp [h, eq_comm]

/-- The command line without an option for the policy has the policy of the settings under every
name that stands for one. The page on which no policy is chosen has it where the name stands for the
flat kind or is spelled "severity", and has the flat policy under every other name. -/
theorem preselects_configured_policy_iff {s : Settings} {k : PolicyKind}
    (hname : PolicyKind.ofName? s.scoringPolicy = some k)
    (haccepted : ∀ k, (s.policyOf k).Accepted) :
    s.scoring none = .ok (s.policyOf k) ∧
      (∀ args, CommandLine.LeavesPolicy args →
        CommandLine.ReviewsUnder s args (s.policyOf k)) ∧
      (∀ i : PageInput, i.policy = none → ∃ p, ReviewsUnder s i p ∧
        (p = s.policyOf k ↔ k = .flat ∨ s.scoringPolicy = "severity") ∧
        (p = s.policyOf k ∨ p = s.policyOf .flat)) := by
  have hscoring := Settings.scoring_none hname (haccepted k)
  refine ⟨hscoring, fun args hargs => CommandLine.reviewsUnder_of_leavesPolicy hargs hscoring,
    fun i hi => ⟨_, reviewsUnder_of_untouched hi (haccepted _), ?_, ?_⟩⟩
  · rw [s.policyOf_injective.eq_iff, preselected_eq_iff hname]
  · rw [s.policyOf_injective.eq_iff, s.policyOf_injective.eq_iff, preselected_eq_iff hname,
      preselected]
    by_cases h : s.scoringPolicy = "severity"
    · exact .inl (.inr h)
    · exact .inr (if_neg h)

def unsavedWords : CommandWords where
  target := some "a.js"
  options := [(.noSave, .none)]

theorem ofArguments_unsaved :
    CommandWords.ofArguments ["a.js", "--no-save"] = .ok ("a.js", unsavedWords) := by
  have hargs : Argument.classifyAll ["a.js", "--no-save"] =
      .ok [.plain "a.js", .option .noSave "--no-save" none] := by decide +kernel
  have hwords : CommandWords.read {} false [.plain "a.js", .option .noSave "--no-save" none] =
      .ok unsavedWords := by cbv
  simp only [CommandWords.ofArguments, hargs, hwords, unsavedWords, if_true]

theorem leavesPolicy_unsaved : CommandLine.LeavesPolicy ["a.js", "--no-save"] :=
  ⟨"a.js", unsavedWords, ofArguments_unsaved, by decide⟩

def riskyInput : PageInput where
  uploads := [callUpload "a.js"]
  review := true

theorem clicks_riskyInput : Clicks riskyInput :=
  ⟨by simp [riskyInput], rfl, rfl⟩

theorem preselects_spelled_flat :
    PolicyKind.ofName? Settings.spelledFlat.scoringPolicy = some .flat ∧
      (∀ k, (Settings.spelledFlat.policyOf k).Accepted) ∧
      Settings.spelledFlat.scoring none = .ok (Settings.spelledFlat.policyOf .flat) ∧
      CommandLine.ReviewsUnder Settings.spelledFlat ["a.js", "--no-save"]
        (Settings.spelledFlat.policyOf .flat) ∧
      ReviewsUnder Settings.spelledFlat riskyInput (Settings.spelledFlat.policyOf .flat) := by
  have hname : PolicyKind.ofName? Settings.spelledFlat.scoringPolicy = some .flat := by
    decide +kernel
  have haccepted : ∀ k, (Settings.spelledFlat.policyOf k).Accepted := by
    intro k
    cases k <;> decide +kernel
  obtain ⟨hscoring, hcommand, hpage⟩ := preselects_configured_policy_iff hname haccepted
  obtain ⟨p, hunder, hiff, -⟩ := hpage riskyInput rfl
  rw [hiff.2 (.inl rfl)] at hunder
  exact ⟨hname, haccepted, hscoring, hcommand _ leavesPolicy_unsaved, hunder⟩

def spelledSeverity : Settings where
  scoringPolicy := "Severity"

def riskyTree : FileTree where
  entries := [(["a.js"], .file (Text.Utf8.encode "eval(x)".toList))]
  nodup := by decide

/-- The severity policy is configured, and the page reviews under the flat one: the same file has a
lower score there. -/
theorem preselects_flat_under_spelled_severity :
    PolicyKind.ofName? spelledSeverity.scoringPolicy = some .severity ∧
      (∀ k, (spelledSeverity.policyOf k).Accepted) ∧
      spelledSeverity.scoring none = .ok .default ∧
      (∃ a, CommandLine.Reaches [("QCR_SCORING_POLICY", "Severity")] ["a.js", "--no-save"]
        riskyTree {} a {} [Path.ofString "a.js"]) ∧
      (∀ (host : Host) (clock : Nat → String),
        ((CommandLine.run host [("QCR_SCORING_POLICY", "Severity")] ["a.js", "--no-save"] clock
          riskyTree {}).result fun _ => .timedOut).reviews.map (·.score.val) = [90]) ∧
      riskyInput.policy = none ∧ Clicks riskyInput ∧
      Settings.load { environment := [("QCR_SCORING_POLICY", "Severity")] } =
        .valid spelledSeverity ∧
      spelledSeverity.configure (choices spelledSeverity riskyInput) = .ok { policy := .flat {} } ∧
      ((visit (fun _ _ => "") { environment := [("QCR_SCORING_POLICY", "Severity")] } riskyInput
        {}).result fun _ => .timedOut).state.reviews.map (List.map (·.score.val)) = some [85] := by
  have hload : CommandLine.loadSettings [("QCR_SCORING_POLICY", "Severity")] riskyTree =
      .ok (.valid spelledSeverity) := by
    have hfile : CommandLine.settingsFile riskyTree = .ok none := by cbv
    rw [CommandLine.loadSettings_of_file hfile]
    decide +kernel
  have hscoring : spelledSeverity.scoring none = .ok .default := by decide +kernel
  have hscan : riskyTree.scan (Path.ofString "a.js") true = [Path.ofString "a.js"] := by cbv
  have hreaches : CommandLine.Reaches [("QCR_SCORING_POLICY", "Severity")] ["a.js", "--no-save"]
      riskyTree {} (Arguments.ofWords spelledSeverity "a.js" unsavedWords) {}
      [Path.ofString "a.js"] :=
    { configured := ⟨spelledSeverity, hload, by rw [Arguments.read, ofArguments_unsaved]; rfl,
        Settings.configure_of_scoring (by decide +kernel) (by decide +kernel)⟩
      logged := by decide +kernel
      scanned := hscan
      found := by simp
      few := by decide +kernel }
  have hslots : CommandLine.slots riskyTree [Path.ofString "a.js"] =
      .ok (uploadSlots riskyInput.uploads) := by cbv
  have hscores : ((Batch.review ({} : ReviewOptions Request Delivery) 4
      (Slot.sources (uploadSlots riskyInput.uploads))).result fun _ => .timedOut).outcome.map
        (fun batch => (Slot.fill (uploadSlots riskyInput.uploads) batch).map (·.score.val)) =
          .ok [90] := by decide +kernel
  refine ⟨by decide +kernel, fun k => by cases k <;> decide +kernel, hscoring, ⟨_, hreaches⟩,
    fun host clock => ?_, rfl, clicks_riskyInput, by decide +kernel,
    Settings.configure_of_scoring (by decide +kernel) rfl, by decide +kernel⟩
  obtain ⟨l', hrun⟩ := hreaches.run_eq host clock
  cases hbatch : ((Batch.review ({} : ReviewOptions Request Delivery) 4
      (Slot.sources (uploadSlots riskyInput.uploads))).result fun _ => .timedOut).outcome with
  | error f =>
    rw [hbatch] at hscores
    cases hscores
  | ok batch =>
    rw [hbatch] at hscores
    rw [hrun, reviewFiles_of_batch hslots ((Batch.outcome_review_congr _ _ 4 _ _).trans hbatch)]
    exact Except.ok.inj hscores

end Page

end CodeReview
