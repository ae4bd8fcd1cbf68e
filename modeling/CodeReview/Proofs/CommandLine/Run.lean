import Mathlib
import CodeReview.Proofs.CommandLine.Files
import CodeReview.Proofs.CommandLine.Progress
import CodeReview.Proofs.Console.Prints
import CodeReview.Proofs.Logger
import CodeReview.Proofs.Settings.Configured

/-!
Runs that come to review files. The reviews are those of the files that were found, in their order,
and what is saved and the exit status are told by them. Only a penalty that is no finite number ends
such a run without reviews.
-/

namespace CodeReview

theorem Arguments.read_of_words {args : List String} {as : List Argument} {w : CommandWords}
    {target : String} (hargs : Argument.classifyAll args = .ok as)
    (hwords : CommandWords.read {} false as = .ok w) (htarget : w.target = some target)
    (hextras : w.extras = []) (s : Settings) :
    Arguments.read s args = .ok (ofWords s target w) := by
  simp only [read, CommandWords.ofArguments, hargs, hwords, htarget, hextras, if_true, Except.map]

namespace CommandLine

theorem verdict_eq_one_iff {failUnder : Option Int} {rs : List Review} :
    verdict failUnder rs = 1 ↔
      ∃ limit, failUnder = some limit ∧ ∃ r ∈ rs, (r.score.val : Int) < limit := by
  cases failUnder with
  | none => simp [verdict]
  | some limit => simp [verdict]

theorem verdict_eq_zero_or_one (failUnder : Option Int) (rs : List Review) :
    verdict failUnder rs = 0 ∨ verdict failUnder rs = 1 := by
  cases failUnder with
  | none => exact .inl rfl
  | some limit =>
    simp only [verdict]
    split
    · exact .inr rfl
    · exact .inl rfl

theorem ended_of_verdict {ending : Ending} {failUnder : Option Int} {rs : List Review}
    (h : ending = .status (verdict failUnder rs)) :
    (ending = .status 1 ↔
      ∃ limit, failUnder = some limit ∧ ∃ r ∈ rs, (r.score.val : Int) < limit) ∧
    (ending = .status 0 ∨ ending = .status 1) := by
  subst h
  simp only [Ending.status.injEq]
  exact ⟨verdict_eq_one_iff, verdict_eq_zero_or_one failUnder rs⟩

/-- Where reports are saved, they can be: their directory is there or can be made, and is usable at
any time. No file is longer than a machine word can tell. -/
structure Saveable (a : Arguments) (clock : Nat → String) (t : FileTree) (files : List Path) :
    Prop where
  sized : ∀ p ∈ files, ∀ bytes, t.read p = .ok bytes → bytes.length < 2 ^ 63
  made : a.save = true → (t.ensureDirectory (Path.ofString a.out)).2 = none
  usable : a.save = true → ∀ i, Report.Usable (outTree a t) (Path.ofString a.out) (clock i)

/-- The console prints the paths under which the reports on these files may come to stand. -/
def Tells (host : Host) (a : Arguments) (clock : Nat → String) (t : FileTree)
    (files : List Path) : Prop :=
  a.save = true → ∀ p ∈ files, ∀ i n, host.prints (.saved
    (reportPath (Path.ofString a.out) (outRoot a t) (clock i) p.toString n)) = true

/-- What a run leaves behind that has come to its end. Unless saving is off, there is one new file
for each review, in their order, and nothing else but the directories on the way to them. The exit
status is 1 exactly if there is a limit and a review scores below it, and else 0. -/
structure Delivered (a : Arguments) (clock : Nat → String) (t : FileTree) (run : CommandRun) :
    Prop where
  unsaved : a.save = false → run.tree = t
  saved : a.save = true → t.AddsDirectories (outTree a t) ∧
    Report.AddsReports (Path.ofString a.out) clock (outRoot a t) (outTree a t) run.tree run.reviews
  failed_iff : run.ending = .status 1 ↔
    ∃ limit, a.failUnder = some limit ∧ ∃ r ∈ run.reviews, (r.score.val : Int) < limit
  ended : run.ending = .status 0 ∨ run.ending = .status 1

/-- A run has broken off at a report whose path the console does not print; it is the last one that
has been saved. -/
structure Untold (host : Host) (a : Arguments) (clock : Nat → String) (t : FileTree)
    (run : CommandRun) (p : Path) : Prop where
  save : a.save = true
  unprinted : host.prints (.saved p) = false
  ended : run.ending = .crash (.unprinted (.saved p))
  made : t.AddsDirectories (outTree a t)
  saved : ∃ i r n, run.reviews[i]? = some r ∧
    p = reportPath (Path.ofString a.out) (outRoot a t) (clock i) r.filename n ∧
    Report.AddsReports (Path.ofString a.out) clock (outRoot a t) (outTree a t) run.tree
      (run.reviews.take (i + 1))

section

variable {host : Host} {a : Arguments} {clock : Nat → String} {t : FileTree} {l : Logger}
  {b : BatchRun} {rs : List Review}

theorem ending_finish (h : (deliver host a clock rs t).crash = none) (l : Logger) (b : BatchRun) :
    (finish host a clock t l b rs).ending = .status (verdict a.failUnder rs) := by
  simp only [finish, h]

theorem ending_finish_of_crash {c : Crash} (h : (deliver host a clock rs t).crash = some c)
    (l : Logger) (b : BatchRun) : (finish host a clock t l b rs).ending = .crash c := by
  simp only [finish, h]

theorem delivered_or_untold {files : List Path} (h : Saveable a clock t files)
    (hshown : ∀ r ∈ rs, Shown host r)
    (hsummary : 1 < rs.length → host.prints (.summary rs) = true) (l : Logger) (b : BatchRun) :
    Delivered a clock t (finish host a clock t l b rs) ∨
      ∃ p, Untold host a clock t (finish host a clock t l b rs) p := by
  by_cases hsave : a.save = true
  · have hoff : a.save = false → False := by simp [hsave]
    obtain ⟨m, hsaves, hend⟩ := deliver_saved hsave (h.made hsave) (h.usable hsave) hshown hsummary
    rcases hend with ⟨hnone, hlen⟩ | ⟨i, r, n, rfl, hr, hno, hcrash⟩
    · obtain ⟨hfailed, hended⟩ := ended_of_verdict (ending_finish hnone l b)
      rw [List.take_of_length_le hlen] at hsaves
      exact .inl ⟨fun h => (hoff h).elim,
        fun _ => ⟨t.addsDirectories_ensureDirectory _, hsaves.addsReports⟩, hfailed, hended⟩
    · exact .inr ⟨_, hsave, hno, ending_finish_of_crash hcrash l b,
        t.addsDirectories_ensureDirectory _, i, r, n, hr, rfl, hsaves.addsReports⟩
  · have hnone := crash_deliver_unsaved hsave hshown hsummary clock t
    obtain ⟨hfailed, hended⟩ := ended_of_verdict (ending_finish hnone l b)
    exact .inl ⟨fun _ => tree_deliver_unsaved hsave host clock rs t, fun h => absurd h hsave,
      hfailed, hended⟩

theorem Tells.not_untold {files : List Path} (h : Tells host a clock t files)
    (hnames : rs.map (·.filename) = files.map Path.toString) (p : Path) :
    ¬Untold host a clock t (finish host a clock t l b rs) p := by
  rintro ⟨hsave, hno, -, -, i, r, n, hr, rfl, -⟩
  have hmem : r.filename ∈ files.map Path.toString := by
    rw [← hnames]
    exact List.mem_map_of_mem (List.mem_of_getElem? hr)
  obtain ⟨path, hpath, hname⟩ := List.mem_map.1 hmem
  rw [← hname, h hsave path hpath i n] at hno
  cases hno

theorem shown_of_makes (hhost : host.Lawful) {p : Policy} {files : List Path} {ss : List Slot}
    (hsized : ∀ p ∈ files, ∀ bytes, t.read p = .ok bytes → bytes.length < 2 ^ 63)
    (hslots : List.Forall₂ (Slot.OfFile t) files ss) (hrs : List.Forall₂ (Slot.Makes p) ss rs) :
    ∀ r ∈ rs, Shown host r := by
  intro r hr
  obtain ⟨path, hpath, bytes, hread, hmakes⟩ := Slot.exists_makes_of_forall₂ hslots hrs r hr
  exact
    { short := hmakes.not_hasLongLine (hsized path hpath bytes hread)
      heading := fun e he =>
        hhost.prints_of_escaped (ConsoleEntry.escaped_heading hmakes.worded e he)
      details := fun e he =>
        hhost.prints_of_escaped (ConsoleEntry.escaped_details hmakes.worded e he) }

end

/-- With these settings and arguments the program comes to the review of files: nothing is wrong
with them, there are files, and there are not too many. -/
structure Reaches (environment : List (String × String)) (args : List String) (t : FileTree)
    (l : Logger) (a : Arguments) (o : ReviewOptions Request Delivery) (files : List Path) :
    Prop where
  configured : ∃ s : Settings,
    loadSettings environment t = .ok (.valid s) ∧
    Arguments.read s args = .ok a ∧ s.configure a.choices = .ok o
  logged : (l.configure a.logLevel).isOk = true
  scanned : t.scan (Path.ofString a.target) a.recursive = files
  found : files ≠ []
  few : (files.length : Int) ≤ a.maxFiles

theorem exists_sources_of_load {environment : List (String × String)} {t : FileTree}
    {checked : Checked Settings} (h : loadSettings environment t = .ok checked) :
    ∃ sources, settingsSources environment t = .ok sources ∧ Settings.load sources = checked := by
  rw [loadSettings] at h
  cases hsources : settingsSources environment t with
  | error fault =>
    rw [hsources] at h
    cases h
  | ok sources =>
    rw [hsources] at h
    exact ⟨sources, rfl, Except.ok.inj h⟩

theorem run_of_read {environment : List (String × String)} {args : List String} {t : FileTree}
    {l l' : Logger} {s : Settings} {a : Arguments}
    (hload : loadSettings environment t = .ok (.valid s)) (hread : Arguments.read s args = .ok a)
    (hl : l.configure a.logLevel = .ok l') (host : Host) (clock : Nat → String) :
    run host environment args clock t l = runWith host s a clock t l' := by
  obtain ⟨sources, hsources, hvalid⟩ := exists_sources_of_load hload
  unfold run
  rw [hsources]
  dsimp only
  rw [hvalid]
  dsimp only
  rw [hread]
  dsimp only
  rw [hl]

namespace Reaches

variable {environment : List (String × String)} {args : List String} {t : FileTree} {l : Logger}
  {a : Arguments} {o : ReviewOptions Request Delivery} {files : List Path}

theorem run_eq (h : Reaches environment args t l a o files) (host : Host) (clock : Nat → String) :
    ∃ l', run host environment args clock t l = reviewFiles host o a clock t l' files := by
  obtain ⟨s, hload, hread, hconfigure⟩ := h.configured
  obtain ⟨l', hl⟩ := Logger.exists_of_isOk h.logged
  refine ⟨l', ?_⟩
  rw [run_of_read hload hread hl]
  unfold runWith
  rw [hconfigure]
  simp only [h.scanned, List.isEmpty_iff, if_neg h.found, if_neg (Int.not_lt.2 h.few)]

theorem accepted (h : Reaches environment args t l a o files) : o.policy.Accepted := by
  obtain ⟨s, -, -, hconfigure⟩ := h.configured
  exact Settings.accepted_of_configure hconfigure

theorem exists_slots (h : Reaches environment args t l a o files) :
    ∃ ss, slots t files = .ok ss ∧ List.Forall₂ (Slot.OfFile t) files ss := by
  refine CommandLine.exists_slots fun p hp => ?_
  rw [← h.scanned] at hp
  exact FileTree.exists_read_of_isFile (FileTree.isFile_of_mem_scan hp)

end Reaches

/-- The reviews of a run are those of its files, one for each, in their order. They are merged from
those that there are at once and those of one batch, which has just as many as are waited for. -/
structure ReviewsFiles (o : ReviewOptions Request Delivery) (wanted : Int) (t : FileTree)
    (reply : Request → Delivery) (files : List Path) (reviews : List Review) : Prop where
  merged : ∃ ss batch, slots t files = .ok ss ∧
    ((Batch.review o wanted (Slot.sources ss)).result reply).outcome = .ok batch ∧
    Slot.Merged ss batch reviews
  inOrder : List.Forall₂ (Review.OfFile o t reply) files reviews

/-- Where every penalty is a finite number, a run that comes to the review of files has the review
of the `i`th file as its `i`th review. If reports are not to be saved or can be, then each review is
saved, and the exit status tells whether one of them scores below the limit, or the run breaks off at
the first report whose path is not printed; if the console prints the paths, it does not. Where a
penalty is not finite, the run breaks off with nothing reviewed and nothing saved. -/
theorem reviews_files {host : Host} (hhost : host.Lawful) {environment : List (String × String)}
    {args : List String} {t : FileTree} {l : Logger} {a : Arguments}
    {o : ReviewOptions Request Delivery} {files : List Path}
    (h : Reaches environment args t l a o files) (clock : Nat → String)
    (reply : Request → Delivery) :
    ∃ done : CommandRun, (run host environment args clock t l).result reply = done ∧
    (FinitePenalties o t reply files →
      ReviewsFiles o a.workers t reply files done.reviews ∧
      (Saveable a clock t files →
        Delivered a clock t done ∨ ∃ p, Untold host a clock t done p) ∧
      (Saveable a clock t files → Tells host a clock t files → Delivered a clock t done)) ∧
    (¬FinitePenalties o t reply files →
      done.reviews = [] ∧ done.tree = t ∧ ∃ fault, done.ending = .crash (.score fault)) := by
  obtain ⟨l', hrun⟩ := h.run_eq host clock
  obtain ⟨ss, hss, hslots⟩ := h.exists_slots
  have hbatch := exists_batch_iff h.accepted hslots a.workers reply
  -- the batch of the text files decides: it has all its reviews, or breaks the run off
  refine ⟨_, rfl, fun hfinite => ?_, fun hfinite => ?_⟩
  · obtain ⟨batch, hb⟩ := hbatch.2 hfinite
    simp only [hrun, reviewFiles, hss, Dialogue.result_bind, Dialogue.result, hb]
    have hmerged := merged_of_batch hb
    have houtcomes := hmerged.map_outcome (Batch.outcome_review_eq_ok_iff.1 hb)
    have hfiles := Slot.reviews_ofFile hslots houtcomes
    have hend : Saveable a clock t files → _ := fun hsaveable =>
      have hshown := shown_of_makes hhost hsaveable.sized hslots
        (Slot.makes_of_map_outcome houtcomes)
      delivered_or_untold (l := l') hsaveable hshown
        (fun _ => hhost.prints_of_escaped (ConsoleEntry.escaped_summary _))
        ((Batch.review o a.workers (Slot.sources ss)).result reply)
    refine ⟨⟨⟨ss, batch, hss, hb, hmerged⟩, hfiles⟩, hend, fun hsaveable htells => ?_⟩
    refine (hend hsaveable).resolve_right ?_
    rintro ⟨p, hp⟩
    exact htells.not_untold (Review.map_filename_of_ofFile hfiles) p hp
  · cases hb : ((Batch.review o a.workers (Slot.sources ss)).result reply).outcome with
    | ok batch => exact absurd (hbatch.1 ⟨batch, hb⟩) hfinite
    | error fault =>
      simp only [hrun, reviewFiles, hss, Dialogue.result_bind, Dialogue.result, hb]
      exact ⟨trivial, trivial, fault, rfl⟩

theorem loadSettings_of_file {t : FileTree} {file : Option String} (h : settingsFile t = .ok file)
    (environment : List (String × String)) :
    loadSettings environment t = .ok (Settings.load { environment, file }) := by
  rw [loadSettings, settingsSources, h]
  rfl

theorem loadSettings_default {t : FileTree} (h : settingsFile t = .ok none) :
    loadSettings [] t = .ok (.valid {}) := by
  rw [loadSettings_of_file h]
  decide +kernel

def mixedTree : FileTree where
  entries := [
    (["src"], .directory),
    (["src", "a.js"], .file (Text.Utf8.encode "eval(x)".toList)),
    (["src", "b.py"], .file [0])]
  nodup := by decide

/-- A console that fails at tags that close what is not open, with no words for faults. -/
def quietHost : Host :=
  closingHost fun _ _ => ""

theorem lawful_quietHost : quietHost.Lawful :=
  lawful_closingHost _

theorem isStamp_sample : Report.IsStamp "20240102_030405" :=
  by decide +kernel

theorem reaches_mixedTree : ∃ a : Arguments,
    Reaches [] ["src", "--fail-under", "80"] mixedTree {} a {}
        [Path.ofString "src/a.js", Path.ofString "src/b.py"] ∧
      a.out = "reports" ∧ a.target = "src" := by
  have hload : loadSettings [] mixedTree = .ok (.valid {}) := loadSettings_default (by cbv)
  have hargs : Argument.classifyAll ["src", "--fail-under", "80"] =
      .ok [.plain "src", .option .failUnder "--fail-under" none, .plain "80"] := by decide +kernel
  have hwords : CommandWords.read {} false
      [.plain "src", .option .failUnder "--fail-under" none, .plain "80"] =
        .ok { target := some "src", options := [(.failUnder, .integer 80)] } := by cbv
  have hscan : mixedTree.scan (Path.ofString "src") true =
      [Path.ofString "src/a.js", Path.ofString "src/b.py"] := by cbv
  have hreaches : Reaches [] ["src", "--fail-under", "80"] mixedTree {} _ {}
      [Path.ofString "src/a.js", Path.ofString "src/b.py"] :=
    { configured := ⟨{}, hload, Arguments.read_of_words hargs hwords rfl rfl {},
        Settings.configure_of_scoring (by decide +kernel) (by decide +kernel)⟩
      logged := by decide +kernel
      scanned := hscan
      found := by simp
      few := by decide +kernel }
  exact ⟨_, hreaches, rfl, rfl⟩

theorem saveable_mixedTree {a : Arguments} (hout : a.out = "reports") :
    Saveable a (fun _ => "20240102_030405") mixedTree
      [Path.ofString "src/a.js", Path.ofString "src/b.py"] := by
  have hentries : (mixedTree.ensureDirectory (Path.ofString "reports")).1.entries =
      mixedTree.entries ++ [(["reports"], .directory)] := by cbv
  have hplace : (mixedTree.ensureDirectory (Path.ofString "reports")).1.find
      (Path.ofString "reports") = .ok (.taken ["reports"] .directory) := by cbv
  have hmade : (mixedTree.ensureDirectory (Path.ofString "reports")).2 = none := by cbv
  have husable : Report.Usable (mixedTree.ensureDirectory (Path.ofString "reports")).1
      (Path.ofString "reports") "20240102_030405" := by
    refine Report.usable_of_no_link _ hplace ?_
    rw [hentries]
    simp [mixedTree]
  have hfirst : mixedTree.read (Path.ofString "src/a.js") =
    .ok (Text.Utf8.encode "eval(x)".toList) := by cbv
  have hsecond : mixedTree.read (Path.ofString "src/b.py") = .ok [0] := by cbv
  rw [← hout] at hmade husable
  exact
    { sized := List.forall_mem_cons.2 ⟨FileTree.length_lt_of_read hfirst (by decide +kernel),
        List.forall_mem_singleton.2 (FileTree.length_lt_of_read hsecond (by decide))⟩
      made := fun _ => hmade
      usable := fun _ _ => husable }

theorem tells_mixedTree {a : Arguments} (hout : a.out = "reports") (htarget : a.target = "src") :
    Tells quietHost a (fun _ => "20240102_030405") mixedTree
      [Path.ofString "src/a.js", Path.ofString "src/b.py"] := by
  have hparent : reportRoot (mixedTree.ensureDirectory (Path.ofString "reports")).1
      (Path.ofString "src") = Path.ofString "src" := by cbv
  have hroot : outRoot a mixedTree = some (Path.ofString "src") := by
    rw [outRoot, outTree, hout, htarget, hparent]
  rw [Tells, hroot, hout]
  refine fun _ => List.forall_mem_cons.2 ⟨fun _ n => ?_, List.forall_mem_singleton.2 fun _ n => ?_⟩
  · rw [reportPath, lawful_quietHost.prints_saved isStamp_sample]
    decide +kernel
  · rw [reportPath, lawful_quietHost.prints_saved isStamp_sample]
    decide +kernel

theorem reviews_mixed_tree :
    ∃ (a : Arguments) (done : CommandRun),
      quietHost.Lawful ∧
      Reaches [] ["src", "--fail-under", "80"] mixedTree {} a {}
        [Path.ofString "src/a.js", Path.ofString "src/b.py"] ∧
      FinitePenalties {} mixedTree (fun _ : Request => Delivery.timedOut)
        [Path.ofString "src/a.js", Path.ofString "src/b.py"] ∧
      Saveable a (fun _ => "20240102_030405") mixedTree
        [Path.ofString "src/a.js", Path.ofString "src/b.py"] ∧
      Tells quietHost a (fun _ => "20240102_030405") mixedTree
        [Path.ofString "src/a.js", Path.ofString "src/b.py"] ∧
      (run quietHost [] ["src", "--fail-under", "80"] (fun _ => "20240102_030405") mixedTree
        {}).result (fun _ => .timedOut) = done ∧
      ReviewsFiles {} a.workers mixedTree (fun _ => .timedOut)
        [Path.ofString "src/a.js", Path.ofString "src/b.py"] done.reviews ∧
      Delivered a (fun _ => "20240102_030405") mixedTree done := by
  obtain ⟨a, hreaches, hout, htarget⟩ := reaches_mixedTree
  have hfinite : FinitePenalties {} mixedTree (fun _ : Request => Delivery.timedOut)
      [Path.ofString "src/a.js", Path.ofString "src/b.py"] :=
    finitePenalties_of_bounded (by decide +kernel) (by decide +kernel) _ _ _
  have hsaveable := saveable_mixedTree hout
  have htells := tells_mixedTree hout htarget
  obtain ⟨done, hdone, hall, -⟩ :=
    reviews_files lawful_quietHost hreaches (fun _ => "20240102_030405") fun _ => .timedOut
  obtain ⟨hreviews, -, hdelivered⟩ := hall hfinite
  exact ⟨a, done, lawful_quietHost, hreaches, hfinite, hsaveable, htells, hdone, hreviews,
    hdelivered hsaveable htells⟩

def faultyTree : FileTree where
  entries := [(["a.js"], .file (Text.Utf8.encode "eval(x)\nel.innerHTML = y".toList))]
  nodup := by decide

theorem reaches_faultyTree : ∃ a : Arguments,
    Reaches [("QCR_FLAT_ISSUE_PENALTY", "1e308")]
        ["a.js", "--policy", "flat", "--no-save", "--fail-under", "50"] faultyTree {} a
        { policy := .flat { issue := .ofRatio false (10 ^ 308) 1 } } [Path.ofString "a.js"] ∧
      a.failUnder = some 50 := by
  have hload : loadSettings [("QCR_FLAT_ISSUE_PENALTY", "1e308")] faultyTree =
      .ok (.valid { flatIssuePenalty := .ofRatio false (10 ^ 308) 1 }) := by
    have hfile : settingsFile faultyTree = .ok none := by cbv
    rw [loadSettings_of_file hfile]
    decide +kernel
  have hargs : Argument.classifyAll
      ["a.js", "--policy", "flat", "--no-save", "--fail-under", "50"] =
      .ok [.plain "a.js", .option .policy "--policy" none, .plain "flat",
        .option .noSave "--no-save" none, .option .failUnder "--fail-under" none, .plain "50"] := by
    decide +kernel
  have hwords : CommandWords.read {} false
      [.plain "a.js", .option .policy "--policy" none, .plain "flat",
        .option .noSave "--no-save" none, .option .failUnder "--fail-under" none, .plain "50"] =
      .ok { target := some "a.js", options := [(.policy, .text "flat"), (.noSave, .none),
        (.failUnder, .integer 50)] } := by cbv
  have hscan : faultyTree.scan (Path.ofString "a.js") true = [Path.ofString "a.js"] := by cbv
  have hreaches : Reaches [("QCR_FLAT_ISSUE_PENALTY", "1e308")]
      ["a.js", "--policy", "flat", "--no-save", "--fail-under", "50"] faultyTree {} _
      { policy := .flat { issue := .ofRatio false (10 ^ 308) 1 } } [Path.ofString "a.js"] :=
    { configured := ⟨_, hload, Arguments.read_of_words hargs hwords rfl rfl _,
        Settings.configure_of_scoring (by decide +kernel) (by decide +kernel)⟩
      logged := by decide +kernel
      scanned := hscan
      found := by simp
      few := by decide +kernel }
  exact ⟨_, hreaches, rfl⟩

theorem batch_faultyTree (wanted : Int) :
    ((Batch.review ({ policy := .flat { issue := .ofRatio false (10 ^ 308) 1 } } :
        ReviewOptions Request Delivery) wanted
      (Slot.sources [.source ⟨"a.js", "eval(x)\nel.innerHTML = y"⟩])).result
        fun _ => .timedOut).outcome = .error .infinite := by
  have hone : ((Batch.review ({ policy := .flat { issue := .ofRatio false (10 ^ 308) 1 } } :
        ReviewOptions Request Delivery) 1
      (Slot.sources [.source ⟨"a.js", "eval(x)\nel.innerHTML = y"⟩])).result
        fun _ => .timedOut).outcome = .error .infinite := by
    decide +kernel
  exact (Batch.outcome_review_congr _ wanted 1 _ _).trans hone

/-- Two findings of weight `10 ^ 308` are together more than the format has room for: the run has no
review of the file that it has found. -/
theorem breaks_off_under_huge_weight :
    ∃ (a : Arguments) (o : ReviewOptions Request Delivery),
      Reaches [("QCR_FLAT_ISSUE_PENALTY", "1e308")]
        ["a.js", "--policy", "flat", "--no-save", "--fail-under", "50"] faultyTree {} a o
        [Path.ofString "a.js"] ∧
      a.failUnder = some 50 ∧
      ∀ (host : Host) (clock : Nat → String),
        ((run host [("QCR_FLAT_ISSUE_PENALTY", "1e308")]
          ["a.js", "--policy", "flat", "--no-save", "--fail-under", "50"] clock faultyTree
          {}).result (fun _ => .timedOut)).reviews = [] ∧
        ((run host [("QCR_FLAT_ISSUE_PENALTY", "1e308")]
          ["a.js", "--policy", "flat", "--no-save", "--fail-under", "50"] clock faultyTree
          {}).result (fun _ => .timedOut)).ending = .crash (.score .infinite) := by
  obtain ⟨a, hreaches, hlimit⟩ := reaches_faultyTree
  have hslots : slots faultyTree [Path.ofString "a.js"] =
      .ok [.source ⟨"a.js", "eval(x)\nel.innerHTML = y"⟩] := by cbv
  refine ⟨a, _, hreaches, hlimit, fun host clock => ?_⟩
  obtain ⟨l', hrun⟩ := hreaches.run_eq host clock
  simp only [hrun, reviewFiles, hslots, Dialogue.result_bind, Dialogue.result, batch_faultyTree,
    and_self]

end CommandLine

end CodeReview
