import CodeReview.Proofs.CommandLine.Run

/-!
The stages of a run. Before the first file is read a run stops for one of a few reasons, with
nothing asked, reviewed or changed, or it comes to the review of files. So a run that is refused has
had no effect, and nothing but saving reports changes the tree.
-/

namespace CodeReview

namespace CommandLine

/-- The settings and the arguments of a run, where both can be read. -/
def Given (environment : List (String × String)) (args : List String) (t : FileTree) (s : Settings)
    (a : Arguments) : Prop :=
  loadSettings environment t = .ok (.valid s) ∧ Arguments.read s args = .ok a

theorem Given.unique {environment : List (String × String)} {args : List String} {t : FileTree}
    {s s' : Settings} {a a' : Arguments} (h : Given environment args t s a)
    (h' : Given environment args t s' a') : s = s' ∧ a = a' := by
  obtain ⟨hload, hread⟩ := h
  obtain ⟨hload', hread'⟩ := h'
  rw [hload] at hload'
  cases hload'
  rw [hread] at hread'
  cases hread'
  exact ⟨rfl, rfl⟩

def stopped (t : FileTree) (l : Logger) (ending : Ending) : CommandRun where
  tree := t
  logger := l
  ending := ending

inductive Stops (host : Host) (environment : List (String × String)) (args : List String)
    (t : FileTree) (l : Logger) : CommandRun → Prop
  | unreadable {fault : Text.Utf8.Fault} (load : loadSettings environment t = .error fault) :
      Stops host environment args t l (stopped t l (.crash (.unreadableSettings fault)))
  | invalid {sources : SettingsSources} {es : List FieldError}
      (given : settingsSources environment t = .ok sources)
      (load : Settings.load sources = .invalid es) :
      Stops host environment args t l
        (refused host t l (invalidSettings (host.describe sources es)))
  | help {s : Settings} (load : loadSettings environment t = .ok (.valid s))
      (read : Arguments.read s args = .error .help) :
      Stops host environment args t l (stopped t l .help)
  | usage {s : Settings} {e : UsageError} (load : loadSettings environment t = .ok (.valid s))
      (read : Arguments.read s args = .error (.refused e)) :
      Stops host environment args t l (stopped t l (.usage e))
  | notLevel {s : Settings} {a : Arguments} {kept : NotLevel}
      (given : Given environment args t s a) (level : l.configure a.logLevel = .error kept) :
      Stops host environment args t l (stopped t l (.crash (.notLevel kept)))
  | unknownPolicy {s : Settings} {a : Arguments} {l' : Logger}
      (given : Given environment args t s a) (level : l.configure a.logLevel = .ok l')
      (name : PolicyKind.ofName? (s.policyName a.policy) = none) :
      Stops host environment args t l (refused host t l'
        (complaint (PolicyError.unknownNameMessage (s.policyName a.policy))))
  | weights {s : Settings} {a : Arguments} {l' : Logger} {k : PolicyKind} {es : List FieldError}
      (given : Given environment args t s a) (level : l.configure a.logLevel = .ok l')
      (kind : PolicyKind.ofName? (s.policyName a.policy) = some k)
      (refused : ¬(s.policyOf k).Accepted) :
      Stops host environment args t l (stopped t l' (.crash (.invalidWeights k es)))
  | missingKey {s : Settings} {a : Arguments} {l' : Logger} {p : Policy}
      (given : Given environment args t s a) (level : l.configure a.logLevel = .ok l')
      (policy : s.scoring (some a.policy) = .ok p) (ai : a.ai = true)
      (key : s.client? a.choices = none) :
      Stops host environment args t l (refused host t l' (complaint Client.missingKeyMessage))
  | noFiles {s : Settings} {a : Arguments} {l' : Logger} {o : ReviewOptions Request Delivery}
      (given : Given environment args t s a) (level : l.configure a.logLevel = .ok l')
      (configured : s.configure a.choices = .ok o)
      (none : t.scan (Path.ofString a.target) a.recursive = []) :
      Stops host environment args t l
        (refused host t l' (complaint "No reviewable files found."))
  | tooManyFiles {s : Settings} {a : Arguments} {l' : Logger} {o : ReviewOptions Request Delivery}
      (given : Given environment args t s a) (level : l.configure a.logLevel = .ok l')
      (configured : s.configure a.choices = .ok o)
      (many : a.maxFiles < (t.scan (Path.ofString a.target) a.recursive).length) :
      Stops host environment args t l (refused host t l'
        (complaint (tooManyFiles (t.scan (Path.ofString a.target) a.recursive).length)))

variable {environment : List (String × String)} {args : List String} {t : FileTree} {l : Logger}

theorem loadSettings_of_sources {sources : SettingsSources}
    (h : settingsSources environment t = .ok sources) :
    loadSettings environment t = .ok (Settings.load sources) := by
  rw [loadSettings, h]
  rfl

theorem settingsSources_of_load {fault : Text.Utf8.Fault}
    (h : loadSettings environment t = .error fault) :
    settingsSources environment t = .error fault := by
  rw [loadSettings] at h
  cases hsources : settingsSources environment t with
  | error fault' =>
    rw [hsources] at h
    cases h
    rfl
  | ok sources =>
    rw [hsources] at h
    cases h

def policyRefusal (name : String) : ConsoleEntry :=
  complaint (PolicyError.unknownNameMessage name)

theorem escaped_complaint {message : String} (h : OwnMarkup message) :
    (complaint message).Escaped :=
  ConsoleEntry.escaped_line (OwnMarkup.styled (by decide) h).escaped

theorem ownMarkup_tooManyFiles (count : Nat) : OwnMarkup (tooManyFiles count) :=
  ((OwnMarkup.word (by decide +kernel)).append (.number count)).append (.word (by decide +kernel))

theorem escaped_invalidSettings (text : String) : (invalidSettings text).Escaped := by
  have hlabel : OwnMarkup (Markup.styled "red" "Invalid QCR_* setting:" ++ " ") :=
    .label (by decide) (by decide +kernel)
  exact ConsoleEntry.escaped_line (hlabel.escaped_behind text)

theorem ending_refused {host : Host} {message : ConsoleEntry} (h : host.prints message = true)
    (t : FileTree) (l : Logger) : (refused host t l message).ending = .status 2 :=
  if_pos h

theorem ending_refused_of_unprinted {host : Host} {message : ConsoleEntry}
    (h : host.prints message = false) (t : FileTree) (l : Logger) :
    (refused host t l message).ending = .crash (.untold message) :=
  if_neg (by rw [h]; exact Bool.false_ne_true)

namespace Stops

variable {host : Host} {done : CommandRun}

theorem without_effect (h : Stops host environment args t l done) :
    done.records = [] ∧ done.reviews = [] ∧ done.tree = t := by
  cases h <;> exact ⟨rfl, rfl, rfl⟩

theorem told (h : Stops host environment args t l done) : ∀ e ∈ done.console, e.Escaped ∨
    ∃ s a, Given environment args t s a ∧ PolicyKind.ofName? (s.policyName a.policy) = none ∧
      e = policyRefusal (s.policyName a.policy) := by
  cases h with
  | unreadable | help | usage | notLevel | weights => exact List.forall_mem_nil _
  | invalid => exact List.forall_mem_singleton.2 (.inl (escaped_invalidSettings _))
  | unknownPolicy given _ name =>
    exact List.forall_mem_singleton.2 (.inr ⟨_, _, given, name, rfl⟩)
  | missingKey =>
    exact List.forall_mem_singleton.2 (.inl (escaped_complaint (.word (by decide +kernel))))
  | noFiles =>
    exact List.forall_mem_singleton.2 (.inl (escaped_complaint (.word (by decide +kernel))))
  | tooManyFiles =>
    exact List.forall_mem_singleton.2 (.inl (escaped_complaint (ownMarkup_tooManyFiles _)))

end Stops

theorem runWith_of_configured {s : Settings} {a : Arguments} {l' : Logger}
    {o : ReviewOptions Request Delivery} (hgiven : Given environment args t s a)
    (hl : l.configure a.logLevel = .ok l') (hconf : s.configure a.choices = .ok o)
    (host : Host) (clock : Nat → String) :
    (∃ done, Stops host environment args t l done ∧ runWith host s a clock t l' = .done done) ∨
    ∃ o files, Reaches environment args t l a o files ∧
      runWith host s a clock t l' = reviewFiles host o a clock t l' files := by
  unfold runWith
  rw [hconf]
  dsimp only
  by_cases hnone : t.scan (Path.ofString a.target) a.recursive = []
  · refine .inl ⟨_, .noFiles hgiven hl hconf hnone, ?_⟩
    rw [if_pos (by rw [hnone, List.isEmpty_nil])]
  have hsome : ¬(t.scan (Path.ofString a.target) a.recursive).isEmpty = true := by
    rwa [List.isEmpty_iff]
  by_cases hmany : a.maxFiles < (t.scan (Path.ofString a.target) a.recursive).length
  · refine .inl ⟨_, .tooManyFiles hgiven hl hconf hmany, ?_⟩
    rw [if_neg hsome, if_pos hmany]
  · refine .inr ⟨o, _, ?_, by rw [if_neg hsome, if_neg hmany]⟩
    exact
      { configured := ⟨s, hgiven.1, hgiven.2, hconf⟩
        logged := by rw [hl]; rfl
        scanned := rfl
        found := hnone
        few := Int.not_lt.1 hmany }

/-- Behind the arguments a run stops for a reason, or it comes to the review of files. -/
theorem runWith_cases {s : Settings} {a : Arguments} {l' : Logger}
    (hgiven : Given environment args t s a) (hl : l.configure a.logLevel = .ok l')
    (host : Host) (clock : Nat → String) :
    (∃ done, Stops host environment args t l done ∧ runWith host s a clock t l' = .done done) ∨
    ∃ o files, Reaches environment args t l a o files ∧
      runWith host s a clock t l' = reviewFiles host o a clock t l' files := by
  cases hpolicy : s.scoring (some a.policy) with
  | error e =>
    refine .inl ?_
    unfold runWith
    cases e with
    | unknownName n =>
      obtain ⟨hname, rfl⟩ := Settings.scoring_eq_unknownName_iff.1 hpolicy
      rw [Settings.configure_of_unknownName (c := a.choices) hpolicy]
      exact ⟨_, .unknownPolicy hgiven hl hname, rfl⟩
    | invalidWeights k es =>
      obtain ⟨hkind, hrefused⟩ := Settings.scoring_eq_invalidWeights hpolicy
      rw [Settings.configure_of_invalidWeights (c := a.choices) hpolicy]
      exact ⟨_, .weights hgiven hl hkind hrefused, rfl⟩
  | ok p =>
    cases hai : a.ai with
    | false =>
      exact runWith_of_configured hgiven hl
        (Settings.configure_of_scoring (c := a.choices) hpolicy hai) host clock
    | true =>
      cases hclient : s.client? a.choices with
      | none =>
        refine .inl ⟨_, .missingKey hgiven hl hpolicy hai hclient, ?_⟩
        unfold runWith
        rw [Settings.configure_of_no_client (c := a.choices) hpolicy hai hclient]
      | some client =>
        exact runWith_of_configured hgiven hl
          (Settings.configure_of_client (c := a.choices) hpolicy hai hclient) host clock

theorem run_cases (host : Host) (environment : List (String × String)) (args : List String)
    (clock : Nat → String) (t : FileTree) (l : Logger) :
    (∃ done, Stops host environment args t l done ∧
      run host environment args clock t l = .done done) ∨
    ∃ a o files l', Reaches environment args t l a o files ∧
      run host environment args clock t l = reviewFiles host o a clock t l' files := by
  -- stage by stage: the settings, the arguments, the level of the logger
  cases hload : loadSettings environment t with
  | error fault =>
    refine .inl ⟨_, .unreadable hload, ?_⟩
    unfold run
    rw [settingsSources_of_load hload]
    rfl
  | ok settings =>
    obtain ⟨sources, hsources, hsettings⟩ := exists_sources_of_load hload
    cases settings with
    | invalid es =>
      refine .inl ⟨_, .invalid hsources hsettings, ?_⟩
      unfold run
      rw [hsources]
      dsimp only
      rw [hsettings]
    | valid s =>
      cases hread : Arguments.read s args with
      | error e =>
        refine .inl ?_
        unfold run
        rw [hsources]
        dsimp only
        rw [hsettings]
        dsimp only
        rw [hread]
        cases e with
        | help => exact ⟨_, .help hload hread, rfl⟩
        | refused e => exact ⟨_, .usage hload hread, rfl⟩
      | ok a =>
        have hgiven : Given environment args t s a := ⟨hload, hread⟩
        cases hl : l.configure a.logLevel with
        | error kept =>
          refine .inl ⟨_, .notLevel hgiven hl, ?_⟩
          unfold run
          rw [hsources]
          dsimp only
          rw [hsettings]
          dsimp only
          rw [hread]
          dsimp only
          rw [hl]
          rfl
        | ok l' =>
          rw [run_of_read hload hread hl]
          rcases runWith_cases hgiven hl host clock with ⟨done, hstops, heq⟩ | ⟨o, files, h, heq⟩
          · exact .inl ⟨done, hstops, heq⟩
          · exact .inr ⟨a, o, files, l', h, heq⟩

end CommandLine

end CodeReview
