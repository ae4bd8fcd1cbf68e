import CodeReview.Proofs.CommandLine.Stages

/-!
Runs that are refused. What is wrong with the settings and the arguments ends a run with one
message, and with nothing asked, reviewed or changed; but four faults are not told, and break the
run off: a file of settings that is not encoded in UTF-8, a level that is none, a weight that the
chosen policy does not accept, and the name of a policy that the console does not print. Whatever
comes of a run, only one that saves changes the tree.
-/

namespace CodeReview

/-- The failures that come of the settings and the arguments alone. -/
def Crash.ofConfiguration : Crash → Bool
  | .unreadableSettings _ => true
  | .notLevel _ => true
  | .invalidWeights _ _ => true
  | .untold _ => true
  | .unprinted _ => false
  | .longLine => false
  | .path _ => false
  | .score _ => false

namespace CommandLine

section

variable {host : Host} {t : FileTree} {r : Review} {rs : List Review} {a : Arguments}
  {clock : Nat → String} {save : Option (Path × Option Path)} {stamp : String} {k : Nat} {c : Crash}

theorem not_ofConfiguration_print {es : List ConsoleEntry}
    (h : (print host t es).crash = some c) : c.ofConfiguration = false := by
  obtain ⟨e, -, -, rfl⟩ := crash_print_eq_some h
  rfl

theorem not_ofConfiguration_render (h : (render host r t).crash = some c) :
    c.ofConfiguration = false := by
  rcases Progress.crash_andThen_eq_some h with h | ⟨-, h⟩
  · exact not_ofConfiguration_print h
  · split at h
    · cases h
      rfl
    · exact not_ofConfiguration_print h

theorem not_ofConfiguration_keep (h : (keep host save stamp r t).crash = some c) :
    c.ofConfiguration = false := by
  cases save with
  | none => cases h
  | some place =>
    obtain ⟨directory, root⟩ := place
    rw [keep] at h
    cases hsave : Report.save t directory stamp root r with
    | error f =>
      rw [hsave] at h
      cases h
      cases f <;> rfl
    | ok saved =>
      rw [hsave] at h
      exact not_ofConfiguration_print h

theorem not_ofConfiguration_present (h : (present host save clock k rs t).crash = some c) :
    c.ofConfiguration = false := by
  induction rs generalizing k t with
  | nil => cases h
  | cons r rs ih =>
    rcases Progress.crash_andThen_eq_some h with h | ⟨-, h⟩
    · rcases Progress.crash_andThen_eq_some h with h | ⟨-, h⟩
      · exact not_ofConfiguration_render h
      · exact not_ofConfiguration_keep h
    · exact ih h

theorem not_ofConfiguration_deliver (h : (deliver host a clock rs t).crash = some c) :
    c.ofConfiguration = false := by
  rcases Progress.crash_andThen_eq_some h with h | ⟨-, h⟩
  · rcases Progress.crash_andThen_eq_some h with h | ⟨-, h⟩
    · rw [makeOut] at h
      split at h
      · obtain ⟨e, -, rfl⟩ := Option.map_eq_some_iff.1 h
        rfl
      · cases h
    · exact not_ofConfiguration_present h
  · exact not_ofConfiguration_print h

end

/-- What a run comes to that has reviewed files: one cannot be read, one cannot be scored, or all
are reviewed. -/
inductive Reviewed (host : Host) (a : Arguments) (clock : Nat → String) (t : FileTree) (l : Logger) :
    CommandRun → Prop
  | unread (e : PathError) :
      Reviewed host a clock t l { tree := t, logger := l, ending := .crash (.path e) }
  | unscored (records : List LogRecord) (workers : Nat) (fault : Binary64.NotInteger) :
      Reviewed host a clock t l { tree := t, logger := l, records := records, workers := workers
                                  ending := .crash (.score fault) }
  | finished (b : BatchRun) (rs : List Review) :
      Reviewed host a clock t l (finish host a clock t l b rs)

theorem reviewed_reviewFiles (host : Host) (o : ReviewOptions Request Delivery) (a : Arguments)
    (clock : Nat → String) (t : FileTree) (l : Logger) (files : List Path)
    (answers : Nat → Delivery) :
    Reviewed host a clock t l ((reviewFiles host o a clock t l files).course answers 0).2 := by
  cases hslots : slots t files with
  | error e =>
    simp only [reviewFiles, hslots]
    exact .unread e
  | ok ss =>
    simp only [reviewFiles, hslots, Dialogue.course_bind_done]
    split
    · exact .unscored _ _ _
    · exact .finished _ _

namespace Reviewed

variable {host : Host} {a : Arguments} {clock : Nat → String} {t : FileTree} {l : Logger}
  {done : CommandRun}

theorem code_ne_two (h : Reviewed host a clock t l done) : done.ending.code? ≠ some 2 := by
  cases h with
  | unread e => exact nofun
  | unscored records workers fault => exact nofun
  | finished b rs =>
    cases hcrash : (deliver host a clock rs t).crash with
    | some c =>
      rw [ending_finish_of_crash hcrash]
      exact nofun
    | none =>
      rw [ending_finish hcrash, Ending.code?]
      rcases verdict_eq_zero_or_one a.failUnder rs with hv | hv
      · rw [hv]
        decide
      · rw [hv]
        decide

theorem not_ofConfiguration (h : Reviewed host a clock t l done) {c : Crash}
    (hc : done.ending = .crash c) : c.ofConfiguration = false := by
  cases h with
  | unread e =>
    cases hc
    rfl
  | unscored records workers fault =>
    cases hc
    rfl
  | finished b rs =>
    cases hcrash : (deliver host a clock rs t).crash with
    | some c' =>
      rw [ending_finish_of_crash hcrash] at hc
      cases hc
      exact not_ofConfiguration_deliver hcrash
    | none =>
      rw [ending_finish hcrash] at hc
      cases hc

theorem tree_of_unsaved (h : Reviewed host a clock t l done) (hsave : a.save = false) :
    done.tree = t := by
  cases h with
  | unread e => rfl
  | unscored records workers fault => rfl
  | finished b rs => exact tree_deliver_unsaved (by rw [hsave]; decide) host clock rs t

end Reviewed

theorem save_of_given {environment : List (String × String)} {args : List String} {t : FileTree}
    {s : Settings} {a : Arguments} (h : Given environment args t s a) :
    ∃ target w, CommandWords.ofArguments args = .ok (target, w) ∧ a.save = !w.has .noSave := by
  have hread := h.2
  rw [Arguments.read] at hread
  cases hwords : CommandWords.ofArguments args with
  | error e =>
    rw [hwords] at hread
    cases hread
  | ok tw =>
    obtain ⟨target, w⟩ := tw
    rw [hwords] at hread
    cases hread
    exact ⟨target, w, rfl, rfl⟩

/-- A run that ends with status 2 has asked nothing, recorded nothing, reviewed nothing and changed
nothing, whatever would have been answered; and a run without saving changes nothing, however it
ends. -/
theorem refused_without_effect (host : Host) (environment : List (String × String))
    (args : List String) (clock : Nat → String) (t : FileTree) (l : Logger)
    (answers : Nat → Delivery) :
    ∃ asked done, (run host environment args clock t l).course answers 0 = (asked, done) ∧
      (done.ending.code? = some 2 →
        asked = [] ∧ done.records = [] ∧ done.reviews = [] ∧ done.tree = t) ∧
      ((∀ target w, CommandWords.ofArguments args = .ok (target, w) → w.has .noSave = true) →
        done.tree = t) := by
  refine ⟨_, _, rfl, ?_⟩
  rcases run_cases host environment args clock t l with
    ⟨done, hstops, hrun⟩ | ⟨a, o, files, l', hreaches, hrun⟩
  · rw [hrun]
    exact ⟨fun _ => ⟨rfl, hstops.without_effect⟩, fun _ => hstops.without_effect.2.2⟩
  · rw [hrun]
    have hreviewed := reviewed_reviewFiles host o a clock t l' files answers
    refine ⟨fun hcode => absurd hcode hreviewed.code_ne_two, fun hunsaved => ?_⟩
    obtain ⟨s, hload, hread, -⟩ := hreaches.configured
    obtain ⟨target, w, hwords, hsave⟩ := save_of_given ⟨hload, hread⟩
    exact hreviewed.tree_of_unsaved (by rw [hsave, hunsaved target w hwords]; rfl)

/-- There are no settings, no policy or, where one is asked for, no client. -/
def Unconfigured (environment : List (String × String)) (args : List String) (t : FileTree) :
    Prop :=
  (∀ s, loadSettings environment t ≠ .ok (.valid s)) ∨
  ∃ s a, Given environment args t s a ∧
    ((∀ p, s.scoring (some a.policy) ≠ .ok p) ∨ a.ai = true ∧ s.client? a.choices = none)

/-- None of the four faults is there that are not told: the file of settings is encoded in UTF-8,
the level is one, the weights of the chosen policy are accepted, and the console prints the refusal
of a name that is no policy's. -/
structure Tellable (host : Host) (environment : List (String × String)) (args : List String)
    (t : FileTree) : Prop where
  readable : ∃ settings, loadSettings environment t = .ok settings
  level : ∀ s a, Given environment args t s a → (Logger.levelOf a.logLevel).isOk = true
  weights : ∀ s a k, Given environment args t s a →
    PolicyKind.ofName? (s.policyName a.policy) = some k → (s.policyOf k).Accepted
  policyName : ∀ s a, Given environment args t s a →
    PolicyKind.ofName? (s.policyName a.policy) = none →
    host.prints (policyRefusal (s.policyName a.policy)) = true

/-- A run has shown one message and ended with status 2, without any other effect. -/
structure Refused (t : FileTree) (asked : List Request) (done : CommandRun) : Prop where
  told : ∃ message, done.console = [message]
  ended : done.ending = .status 2
  unasked : asked = []
  unreviewed : done.reviews = []
  unchanged : done.tree = t

section

variable {host : Host} {environment : List (String × String)} {args : List String} {t : FileTree}
  {l l' : Logger} {done : CommandRun}

theorem Tellable.of_not_given (hload : ∃ settings, loadSettings environment t = .ok settings)
    (h : ∀ s a, ¬Given environment args t s a) : Tellable host environment args t where
  readable := hload
  level s a hgiven := absurd hgiven (h s a)
  weights s a _ hgiven := absurd hgiven (h s a)
  policyName s a hgiven := absurd hgiven (h s a)

theorem Tellable.of_given {s : Settings} {a : Arguments} (hgiven : Given environment args t s a)
    (hl : l.configure a.logLevel = .ok l')
    (hweights : ∀ k, PolicyKind.ofName? (s.policyName a.policy) = some k → (s.policyOf k).Accepted)
    (hname : PolicyKind.ofName? (s.policyName a.policy) = none →
      host.prints (policyRefusal (s.policyName a.policy)) = true) :
    Tellable host environment args t where
  readable := ⟨_, hgiven.1⟩
  level s' a' hgiven' := by
    obtain ⟨rfl, rfl⟩ := hgiven.unique hgiven'
    rw [← l.isOk_configure, hl]
    rfl
  weights s' a' k hgiven' hk := by
    obtain ⟨rfl, rfl⟩ := hgiven.unique hgiven'
    exact hweights k hk
  policyName s' a' hgiven' := by
    obtain ⟨rfl, rfl⟩ := hgiven.unique hgiven'
    exact hname

theorem Tellable.of_scoring {s : Settings} {a : Arguments} {p : Policy}
    (hgiven : Given environment args t s a) (hl : l.configure a.logLevel = .ok l')
    (hp : s.scoring (some a.policy) = .ok p) : Tellable host environment args t := by
  obtain ⟨k', hk', rfl, haccepted⟩ := Settings.scoring_eq_ok_iff.1 hp
  refine .of_given hgiven hl (fun k hk => ?_) fun hk => ?_
  · rw [hk] at hk'
    obtain rfl := Option.some.inj hk'
    exact haccepted
  · rw [hk] at hk'
    cases hk'

theorem Tellable.of_configure {s : Settings} {a : Arguments} {o : ReviewOptions Request Delivery}
    (hgiven : Given environment args t s a) (hl : l.configure a.logLevel = .ok l')
    (hconf : s.configure a.choices = .ok o) : Tellable host environment args t := by
  obtain ⟨⟨p, hp⟩, -⟩ := Settings.exists_of_configure hconf
  exact .of_scoring hgiven hl hp

theorem not_unconfigured {s : Settings} {a : Arguments} {o : ReviewOptions Request Delivery}
    (hgiven : Given environment args t s a) (hconf : s.configure a.choices = .ok o) :
    ¬Unconfigured environment args t := by
  obtain ⟨⟨p, hp⟩, hclient, -⟩ := Settings.exists_of_configure hconf
  rintro (hload | ⟨s', a', hgiven', hwrong⟩)
  · exact hload s hgiven.1
  · obtain ⟨rfl, rfl⟩ := hgiven.unique hgiven'
    rcases hwrong with hpolicy | ⟨hai, hnone⟩
    · exact hpolicy p hp
    · exact hclient hai hnone

theorem not_given_of_read {e : ArgumentEnd} {s : Settings}
    (hload : loadSettings environment t = .ok (.valid s)) (hread : Arguments.read s args = .error e)
    (s' : Settings) (a : Arguments) : ¬Given environment args t s' a := by
  rintro ⟨hload', hread'⟩
  rw [hload] at hload'
  cases hload'
  rw [hread] at hread'
  cases hread'

theorem not_given_of_invalid {sources : SettingsSources} {es : List FieldError}
    (hsources : settingsSources environment t = .ok sources)
    (hload : Settings.load sources = .invalid es) (s : Settings) (a : Arguments) :
    ¬Given environment args t s a := by
  rintro ⟨hvalid, -⟩
  rw [loadSettings_of_sources hsources, hload] at hvalid
  cases hvalid

theorem tellable_iff_of_prints {message : ConsoleEntry} (hprints : host.prints message = true)
    (h : Tellable host environment args t) :
    Tellable host environment args t ↔ ∀ c, (refused host t l message).ending ≠ .crash c := by
  rw [ending_refused hprints]
  exact iff_of_true h nofun

theorem Stops.tellable_iff (hhost : host.Lawful) (h : Stops host environment args t l done) :
    Tellable host environment args t ↔ ∀ c, done.ending ≠ .crash c := by
  -- each reason to stop is told, or is one of the four faults
  cases h with
  | unreadable load =>
    refine iff_of_false (fun h => ?_) fun h => h _ rfl
    obtain ⟨settings, hsettings⟩ := h.readable
    rw [load] at hsettings
    cases hsettings
  | invalid given load =>
    exact tellable_iff_of_prints (hhost.prints_of_escaped (escaped_invalidSettings _))
      (.of_not_given ⟨_, loadSettings_of_sources given⟩ (not_given_of_invalid given load))
  | help load read => exact iff_of_true (.of_not_given ⟨_, load⟩ (not_given_of_read load read)) nofun
  | usage load read => exact iff_of_true (.of_not_given ⟨_, load⟩ (not_given_of_read load read)) nofun
  | notLevel given level =>
    refine iff_of_false (fun h => ?_) fun h => h _ rfl
    have hok := h.level _ _ given
    rw [Logger.configure_eq_error_iff.1 level] at hok
    cases hok
  | @unknownPolicy s a l' given level name =>
    cases hprints : host.prints (policyRefusal (s.policyName a.policy)) with
    | true =>
      refine tellable_iff_of_prints hprints (.of_given given level (fun k hk => ?_) fun _ => hprints)
      rw [name] at hk
      cases hk
    | false =>
      refine iff_of_false (fun h => ?_) fun h => h _ (ending_refused_of_unprinted hprints t l')
      rw [h.policyName s a given name] at hprints
      cases hprints
  | weights given level kind refused =>
    exact iff_of_false (fun h => refused (h.weights _ _ _ given kind)) fun h => h _ rfl
  | missingKey given level policy =>
    exact tellable_iff_of_prints
      (hhost.prints_of_escaped (escaped_complaint (.word (by decide +kernel))))
      (.of_scoring given level policy)
  | noFiles given level configured =>
    exact tellable_iff_of_prints
      (hhost.prints_of_escaped (escaped_complaint (.word (by decide +kernel))))
      (.of_configure given level configured)
  | tooManyFiles given level configured =>
    exact tellable_iff_of_prints
      (hhost.prints_of_escaped (escaped_complaint (ownMarkup_tooManyFiles _)))
      (.of_configure given level configured)

theorem ofConfiguration_refused {message : ConsoleEntry} {c : Crash}
    (h : (refused host t l message).ending = .crash c) : c.ofConfiguration = true := by
  cases hprints : host.prints message with
  | true =>
    rw [ending_refused hprints] at h
    cases h
  | false =>
    rw [ending_refused_of_unprinted hprints] at h
    cases h
    rfl

theorem Stops.ofConfiguration (h : Stops host environment args t l done) {c : Crash}
    (hc : done.ending = .crash c) : c.ofConfiguration = true := by
  cases h with
  | unreadable | notLevel | weights =>
    cases hc
    rfl
  | help | usage => cases hc
  | invalid | unknownPolicy | missingKey | noFiles | tooManyFiles => exact ofConfiguration_refused hc

theorem told_refused {message : ConsoleEntry}
    (h : ∀ c, (refused host t l message).ending ≠ .crash c) :
    (∃ message', (refused host t l message).console = [message']) ∧
      (refused host t l message).ending = .status 2 := by
  refine ⟨⟨message, rfl⟩, ?_⟩
  cases hprints : host.prints message with
  | true => exact ending_refused hprints t l
  | false => exact absurd (ending_refused_of_unprinted hprints t l) (h _)

theorem Stops.told_of_unconfigured (h : Stops host environment args t l done)
    (hun : Unconfigured environment args t) (hcrash : ∀ c, done.ending ≠ .crash c) :
    (∃ message, done.console = [message]) ∧ done.ending = .status 2 := by
  have hread : ∀ {e s}, loadSettings environment t = .ok (.valid s) →
      Arguments.read s args = .error e → False := by
    intro e s hload hread
    rcases hun with hnone | ⟨s', a, hgiven, -⟩
    · exact hnone s hload
    · exact not_given_of_read hload hread s' a hgiven
  cases h with
  | unreadable | notLevel | weights => exact absurd rfl (hcrash _)
  | help load read => exact (hread load read).elim
  | usage load read => exact (hread load read).elim
  | invalid | unknownPolicy | missingKey | noFiles | tooManyFiles => exact told_refused hcrash

end

/-- Where the settings, a policy or a client that is asked for cannot be had, a run is refused with
one message, exactly if none of the four faults is there that are not told. In every run these
faults, and no others, let a failure of the configuration out of the program. -/
theorem refused_iff_tellable {host : Host} (hhost : host.Lawful)
    (environment : List (String × String)) (args : List String) (clock : Nat → String)
    (t : FileTree) (l : Logger) (answers : Nat → Delivery) :
    ∃ asked done, (run host environment args clock t l).course answers 0 = (asked, done) ∧
      (Unconfigured environment args t →
        (Refused t asked done ↔ Tellable host environment args t)) ∧
      ((∃ c, done.ending = .crash c ∧ c.ofConfiguration = true) ↔
        ¬Tellable host environment args t) := by
  refine ⟨_, _, rfl, ?_⟩
  rcases run_cases host environment args clock t l with
    ⟨done, hstops, hrun⟩ | ⟨a, o, files, l', hreaches, hrun⟩
  · rw [hrun]
    have htellable := hstops.tellable_iff hhost
    refine ⟨fun hun => ⟨fun h => htellable.2 fun c hc => ?_, fun h => ?_⟩, ?_⟩
    · have hended : done.ending = .status 2 := h.ended
      rw [hended] at hc
      cases hc
    · obtain ⟨htold, hended⟩ := hstops.told_of_unconfigured hun (htellable.1 h)
      exact ⟨htold, hended, rfl, hstops.without_effect.2.1, hstops.without_effect.2.2⟩
    · rw [htellable]
      constructor
      · rintro ⟨c, hc, -⟩ hnone
        exact hnone c hc
      · intro h
        obtain ⟨c, hc⟩ := not_forall_not.1 h
        exact ⟨c, hc, hstops.ofConfiguration hc⟩
  · obtain ⟨s, hload, hread, hconf⟩ := hreaches.configured
    have hgiven : Given environment args t s a := ⟨hload, hread⟩
    obtain ⟨l'', hl⟩ := Logger.exists_of_isOk hreaches.logged
    have htellable : Tellable host environment args t := .of_configure hgiven hl hconf
    refine ⟨fun hun => absurd hun (not_unconfigured hgiven hconf), ?_⟩
    rw [hrun]
    refine ⟨fun ⟨c, hc, hof⟩ => ?_, fun h => absurd htellable h⟩
    have hreviewed := reviewed_reviewFiles host o a clock t l' files answers
    rw [hreviewed.not_ofConfiguration hc] at hof
    cases hof

-- the refusal of this name cannot be told: it closes a tag that is not open
example : quietHost.prints (policyRefusal "[/b]") = false := by decide +kernel

def wordyHost : Host :=
  closingHost fun _ _ => "1 validation error for Settings\nmax_workers\n"
    ++ "  Input should be a valid integer, unable to parse string as an integer "
    ++ "[type=int_parsing, input_value='abc', input_type=str]"

theorem refused_for_unreadable_number :
    wordyHost.Lawful ∧
    ∃ asked done,
      (run wordyHost [("QCR_MAX_WORKERS", "abc")] ["a.js", "--no-save"]
        (fun _ => "20240102_030405") faultyTree {}).course (fun _ => .timedOut) 0 =
          (asked, done) ∧
      Unconfigured [("QCR_MAX_WORKERS", "abc")] ["a.js", "--no-save"] faultyTree ∧
      Tellable wordyHost [("QCR_MAX_WORKERS", "abc")] ["a.js", "--no-save"] faultyTree ∧
      Refused faultyTree asked done := by
  have hload : loadSettings [("QCR_MAX_WORKERS", "abc")] faultyTree =
      .ok (.invalid [⟨.unreadableInteger, ["max_workers"]⟩]) := by
    have hfile : settingsFile faultyTree = .ok none := by cbv
    rw [loadSettings_of_file hfile]
    decide +kernel
  have hnone : ∀ s, loadSettings [("QCR_MAX_WORKERS", "abc")] faultyTree ≠ .ok (.valid s) := by
    intro s hs
    rw [hload] at hs
    cases hs
  have htellable : Tellable wordyHost [("QCR_MAX_WORKERS", "abc")] ["a.js", "--no-save"]
      faultyTree := .of_not_given ⟨_, hload⟩ fun s _ hgiven => hnone s hgiven.1
  obtain ⟨asked, done, hrun, hrefused, -⟩ :=
    refused_iff_tellable (lawful_closingHost _) [("QCR_MAX_WORKERS", "abc")] ["a.js", "--no-save"]
      (fun _ => "20240102_030405") faultyTree {} fun _ => .timedOut
  exact ⟨lawful_closingHost _, asked, done, hrun, .inl hnone, htellable,
    (hrefused (.inl hnone)).2 htellable⟩

/-- The settings take a weight of -1, the policy does not: there is no policy, and no message. -/
theorem not_refused_under_negative_weight :
    Unconfigured [("QCR_SEVERITY_LOW", "-1")] ["a.js", "--no-save"] faultyTree ∧
    ∀ (host : Host) (clock : Nat → String),
      (run host [("QCR_SEVERITY_LOW", "-1")] ["a.js", "--no-save"] clock faultyTree {}).course
        (fun _ => .timedOut) 0 = ([], stopped faultyTree
          { level := 30, propagates := false, handlers := ["RichHandler"] }
          (.crash (.invalidWeights .severity [⟨.belowMinimum, ["low"]⟩]))) := by
  have hload : loadSettings [("QCR_SEVERITY_LOW", "-1")] faultyTree =
      .ok (.valid { severityLow := .ofInt (-1) }) := by
    have hfile : settingsFile faultyTree = .ok none := by cbv
    rw [loadSettings_of_file hfile]
    decide +kernel
  have hargs : Argument.classifyAll ["a.js", "--no-save"] =
      .ok [.plain "a.js", .option .noSave "--no-save" none] := by decide +kernel
  have hwords : CommandWords.read {} false [.plain "a.js", .option .noSave "--no-save" none] =
      .ok { target := some "a.js", options := [(.noSave, .none)] } := by cbv
  have hread := Arguments.read_of_words hargs hwords rfl rfl { severityLow := .ofInt (-1) }
  generalize ha : Arguments.ofWords { severityLow := .ofInt (-1) } "a.js"
    { target := some "a.js", options := [(.noSave, .none)] } = a at hread
  have hscoring : Settings.scoring { severityLow := .ofInt (-1) } (some a.policy) =
      .error (.invalidWeights .severity [⟨.belowMinimum, ["low"]⟩]) := by
    rw [← ha]
    decide +kernel
  have hlevel : Logger.configure {} a.logLevel =
      .ok { level := 30, propagates := false, handlers := ["RichHandler"] } := by
    rw [← ha]
    decide +kernel
  refine ⟨.inr ⟨_, a, ⟨hload, hread⟩, .inl fun p hp => ?_⟩, fun host clock => ?_⟩
  · rw [hscoring] at hp
    cases hp
  · rw [run_of_read hload hread hlevel]
    unfold runWith
    rw [Settings.configure_of_invalidWeights (c := a.choices) hscoring]
    rfl

end CommandLine

end CodeReview
