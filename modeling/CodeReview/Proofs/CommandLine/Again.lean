import CodeReview.Proofs.CommandLine.Stages
import CodeReview.Proofs.Report.Unscanned

/-!
Runs one after the other. The reports of a run are not reviewed by the next one: without an
assistant it reviews the same files with the same reviews and ends alike, and its reports come
behind those that are there. Only a broken link stands against it: one that a report, or the
directory of the reports, comes to complete.
-/

namespace CodeReview

open FileTree (Extends)

theorem Review.exists_ofSource_eq_done {Q A : Type} {o : ReviewOptions Q A}
    (h : o.assistant? = none) (s : SourceFile) : ∃ r, ofSource o s = .done r := by
  simp only [ofSource, h]
  split
  · exact ⟨_, rfl⟩
  · exact ⟨_, rfl⟩

theorem Batch.exists_review_eq_done {Q A : Type} {o : ReviewOptions Q A}
    (h : o.assistant? = none) (wanted : Int) (ss : List SourceFile) :
    ∃ b, review o wanted ss = .done b := by
  have hruns : ∃ rs, runs o ss = .done rs := by
    induction ss with
    | nil => exact ⟨[], rfl⟩
    | cons s ss ih =>
      obtain ⟨r, hr⟩ := Review.exists_ofSource_eq_done h s
      obtain ⟨rs, hrs⟩ := ih
      exact ⟨r :: rs, by rw [runs, hr, hrs]; rfl⟩
  obtain ⟨rs, hrs⟩ := hruns
  exact ⟨gather (workers wanted ss.length) rs, by rw [review, hrs]; rfl⟩

namespace CommandLine

section

variable {t t' : FileTree}

theorem slots_congr {files : List Path} (h : ∀ p ∈ files, t'.read p = t.read p) :
    slots t' files = slots t files := by
  induction files with
  | nil => rfl
  | cons p ps ih =>
    rw [List.forall_mem_cons] at h
    rw [slots, slots, h.1, ih h.2]

theorem slots_of_extends (h : Extends t t') {target : Path} {recursive : Bool} :
    slots t' (t.scan target recursive) = slots t (t.scan target recursive) := by
  refine slots_congr fun p hp => ?_
  have hexists := FileTree.exists_of_isFile (FileTree.isFile_of_mem_scan hp)
  rw [FileTree.read, FileTree.read, h.keeps.find_eq hexists]

theorem settingsFile_of_not_isFile (h : ¬t.isFile (Path.ofString ".env") = true) :
    settingsFile t = .ok none := by
  rw [settingsFile]
  split
  · next bytes hread =>
    refine absurd ?_ h
    rw [FileTree.read] at hread
    split at hread
    · next hfind => rw [FileTree.isFile, hfind]
    all_goals cases hread
  · rfl

theorem loadSettings_of_extends (h : Extends t t') (hb : ¬t.Broken (Path.ofString ".env"))
    (environment : List (String × String)) :
    loadSettings environment t' = loadSettings environment t := by
  suffices hfile : settingsFile t' = settingsFile t by
    rw [loadSettings, loadSettings, settingsSources, settingsSources, hfile]
  by_cases hexists : t.exists_ (Path.ofString ".env") = true
  · simp only [settingsFile, FileTree.read, h.keeps.find_eq hexists]
  · have hold : ¬t.isFile (Path.ofString ".env") = true :=
      fun hfile => hexists (FileTree.exists_of_isFile hfile)
    have hnew : ¬t'.isFile (Path.ofString ".env") = true := by
      have hpath : Path.ofString ".env" = (⟨.working, []⟩ : Path).join [".env"] := by
        decide +kernel
      have hroot : t.find ⟨.working, []⟩ = .ok (.taken t.working .directory) := by
        rw [FileTree.find, FileTree.walk, PathRoot.start]
      rw [Bool.not_eq_true, hpath] at hexists
      rw [hpath] at hb ⊢
      intro hfile
      exact absurd (h.suffix_of_isFile hroot (by decide) hb hexists hfile) (by decide +kernel)
    rw [settingsFile_of_not_isFile hnew, settingsFile_of_not_isFile hold]

theorem reportRoot_of_extends (h : Extends t t') {target : Path}
    (htarget : t.exists_ target = true) :
    reportRoot t' target = reportRoot t target := by
  rw [reportRoot, reportRoot, FileTree.isDirectory, FileTree.isDirectory, h.keeps.find_eq htarget]

end

/-- A run has come to its end with the verdict on its reviews. -/
def Returns (run : CommandRun) : Prop :=
  run.ending = .status 0 ∨ run.ending = .status 1

/-- The second run repeats the first one: it has the same reviews and ends alike. Unless saving is
off, each run adds one new file for each review, and nothing that the first one has left is changed.
-/
structure Repeats (a : Arguments) (clock clock' : Nat → String) (t : FileTree)
    (first second : CommandRun) : Prop where
  reviews : second.reviews = first.reviews
  ending : second.ending = first.ending
  unsaved : a.save = false → first.tree = t ∧ second.tree = t
  saved : a.save = true →
    t.AddsDirectories (t.ensureDirectory (Path.ofString a.out)).1 ∧
    Report.AddsReports (Path.ofString a.out) clock (some (reportRoot t (Path.ofString a.target)))
      (t.ensureDirectory (Path.ofString a.out)).1 first.tree first.reviews ∧
    Report.AddsReports (Path.ofString a.out) clock' (some (reportRoot t (Path.ofString a.target)))
      first.tree second.tree second.reviews
  kept : ∀ p at_ e, first.tree.find p = .ok (.taken at_ e) →
    second.tree.find p = .ok (.taken at_ e)

section

variable {host : Host} {a : Arguments} {clock clock' : Nat → String} {t : FileTree} {l : Logger}
  {b : BatchRun} {rs : List Review}

theorem crash_of_returns (h : Returns (finish host a clock t l b rs)) :
    (deliver host a clock rs t).crash = none := by
  cases hcrash : (deliver host a clock rs t).crash with
  | none => rfl
  | some c =>
    rw [Returns, ending_finish_of_crash hcrash] at h
    rcases h with h | h <;> cases h

theorem summary_of_crash_deliver (h : (deliver host a clock rs t).crash = none) :
    1 < rs.length → host.prints (.summary rs) = true :=
  (crash_deliver_eq_none_iff.1 h).2.2

theorem shown_of_crash_deliver (h : (deliver host a clock rs t).crash = none) :
    ∀ r ∈ rs, Shown host r :=
  fun r hr => (shown_of_crash_present (crash_deliver_eq_none_iff.1 h).2.1 r hr).1

theorem made_of_crash_deliver (hsave : a.save = true)
    (h : (deliver host a clock rs t).crash = none) :
    (t.ensureDirectory (Path.ofString a.out)).2 = none := by
  have hmade := (crash_deliver_eq_none_iff.1 h).1
  rw [makeOut_of_save hsave] at hmade
  exact Option.map_eq_none_iff.1 hmade

theorem tells_of_crash_deliver (hhost : host.Lawful) (hclock : ∀ i, Report.IsStamp (clock i))
    (hsave : a.save = true) (h : (deliver host a clock rs t).crash = none) {stamp : String}
    (hstamp : Report.IsStamp stamp) {r : Review} (hr : r ∈ rs) (n : Nat) :
    host.prints (.saved
      (reportPath (Path.ofString a.out) (outRoot a t) stamp r.filename n)) = true := by
  have hpresent := (crash_deliver_eq_none_iff.1 h).2.1
  rw [makeOut_of_save hsave, reports_of_save hsave] at hpresent
  obtain ⟨i, m, htold⟩ := (shown_of_crash_present hpresent r hr).2 _ _ rfl
  rw [reportPath, hhost.prints_saved (hclock i)] at htold
  rw [reportPath, hhost.prints_saved hstamp, htold]

theorem saves_of_crash_deliver (hsave : a.save = true)
    (hb : ∀ i, Report.Unbroken (outTree a t) (Path.ofString a.out) (clock i))
    (h : (deliver host a clock rs t).crash = none) :
    (outTree a t).isDirectory (Path.ofString a.out) = true ∧
    Report.Saves (Path.ofString a.out) clock (outRoot a t) 0 (outTree a t) rs
      (deliver host a clock rs t).tree := by
  have hmade := made_of_crash_deliver hsave h
  have hdir : (outTree a t).isDirectory (Path.ofString a.out) = true :=
    FileTree.isDirectory_of_ensureDirectory (Path.clean_ofString a.out) hmade
  obtain ⟨m, hsaves, hend⟩ := deliver_saved (t := t) hsave hmade (fun i => (hb i).usable hdir)
    (shown_of_crash_deliver h) (summary_of_crash_deliver h)
  rcases hend with ⟨-, hlen⟩ | ⟨i, r, n, -, -, -, hcrash⟩
  · rw [List.take_of_length_le hlen] at hsaves
    exact ⟨hdir, hsaves⟩
  · rw [h] at hcrash
    cases hcrash

theorem extends_of_crash_deliver (ht : t.WellFormed) (hsave : a.save = true)
    (hb : ∀ i, Report.Unbroken (outTree a t) (Path.ofString a.out) (clock i))
    (h : (deliver host a clock rs t).crash = none) :
    Extends t (outTree a t) ∧ Extends (outTree a t) (deliver host a clock rs t).tree := by
  obtain ⟨hdir, hsaves⟩ := saves_of_crash_deliver hsave hb h
  have hmade : Extends t (outTree a t) := .ensureDirectory ht (Path.clean_ofString a.out)
  exact ⟨hmade, hsaves.extends hmade.wellFormed hb hdir⟩

/-- Behind a run that has saved its reviews, the same reviews are saved once more. -/
theorem deliver_again (hhost : host.Lawful) (hclock : ∀ i, Report.IsStamp (clock i))
    (hclock' : ∀ i, Report.IsStamp (clock' i)) (ht : t.WellFormed)
    (htarget : t.exists_ (Path.ofString a.target) = true) (hsave : a.save = true)
    (hb : ∀ i, Report.Unbroken (outTree a t) (Path.ofString a.out) (clock i) ∧
      Report.Unbroken (outTree a t) (Path.ofString a.out) (clock' i))
    (h : (deliver host a clock rs t).crash = none) :
    (deliver host a clock' rs (deliver host a clock rs t).tree).crash = none ∧
    Report.Saves (Path.ofString a.out) clock' (outRoot a t) 0 (deliver host a clock rs t).tree rs
      (deliver host a clock' rs (deliver host a clock rs t).tree).tree := by
  obtain ⟨hdir, -⟩ := saves_of_crash_deliver hsave (fun i => (hb i).1) h
  obtain ⟨hmade, hmore⟩ := extends_of_crash_deliver ht hsave (fun i => (hb i).1) h
  generalize hu : (deliver host a clock rs t).tree = u at hmore ⊢
  -- the directory of the reports is there, and can still be written to
  have hthere : u.isDirectory (Path.ofString a.out) = true := by
    rw [FileTree.isDirectory, hmore.keeps.find_eq (FileTree.exists_of_isDirectory hdir)]
    exact hdir
  have hensure := FileTree.ensureDirectory_of_isDirectory (Path.clean_ofString a.out) hthere
  have hout : outTree a u = u := by rw [outTree, hensure]
  have hroot : outRoot a u = outRoot a t := by
    rw [outRoot, outRoot, hout, reportRoot_of_extends (hmade.trans hmore) htarget,
      reportRoot_of_extends hmade htarget]
  have husable : ∀ i, Report.Usable (outTree a u) (Path.ofString a.out) (clock' i) := by
    intro i
    rw [hout]
    exact ((hb i).2.extends hdir hmore).usable hthere
  obtain ⟨m, hsaves, hend⟩ := deliver_saved hsave (by rw [hensure]) husable
    (shown_of_crash_deliver h) (summary_of_crash_deliver h)
  rw [hout, hroot] at hsaves
  rcases hend with ⟨hnone, hlen⟩ | ⟨i, r, n, -, hr, hno, -⟩
  · rw [List.take_of_length_le hlen] at hsaves
    exact ⟨hnone, hsaves⟩
  -- a path that is not printed now would not have been printed before
  · rw [hroot, tells_of_crash_deliver hhost hclock hsave h (hclock' i)
      (List.mem_of_getElem? hr) n] at hno
    cases hno

theorem repeats_of_saved (hhost : host.Lawful) (hclock : ∀ i, Report.IsStamp (clock i))
    (hclock' : ∀ i, Report.IsStamp (clock' i)) (ht : t.WellFormed)
    (htarget : t.exists_ (Path.ofString a.target) = true) (hsave : a.save = true)
    (hb : ∀ i, Report.Unbroken (outTree a t) (Path.ofString a.out) (clock i) ∧
      Report.Unbroken (outTree a t) (Path.ofString a.out) (clock' i))
    (h : Returns (finish host a clock t l b rs)) (l' : Logger) (b' : BatchRun) :
    Repeats a clock clock' t (finish host a clock t l b rs)
      (finish host a clock' (finish host a clock t l b rs).tree l' b' rs) := by
  have hcrash := crash_of_returns h
  obtain ⟨-, hsaves⟩ := saves_of_crash_deliver hsave (fun i => (hb i).1) hcrash
  obtain ⟨hmade, -⟩ := extends_of_crash_deliver ht hsave (fun i => (hb i).1) hcrash
  obtain ⟨hcrash', hsaves'⟩ := deliver_again hhost hclock hclock' ht htarget hsave hb hcrash
  have hroot : outRoot a t = some (reportRoot t (Path.ofString a.target)) := by
    rw [outRoot, reportRoot_of_extends hmade htarget]
  rw [hroot] at hsaves hsaves'
  refine ⟨rfl, ?_, fun hoff => ?_, fun _ => ?_, ?_⟩
  · rw [ending_finish hcrash]
    exact ending_finish hcrash' l' b'
  · rw [hsave] at hoff
    cases hoff
  · exact ⟨t.addsDirectories_ensureDirectory _, hsaves.addsReports, hsaves'.addsReports⟩
  · exact fun p at_ e hp => hsaves'.find_taken hp

theorem repeats_of_unsaved (hsave : ¬a.save = true) (h : Returns (finish host a clock t l b rs))
    (l' : Logger) (b' : BatchRun) :
    Repeats a clock clock' t (finish host a clock t l b rs)
      (finish host a clock' (finish host a clock t l b rs).tree l' b' rs) := by
  have hcrash := crash_of_returns h
  have htree : ∀ clock t, (deliver host a clock rs t).tree = t :=
    fun clock t => tree_deliver_unsaved hsave host clock rs t
  have hcrash' := crash_deliver_unsaved hsave (shown_of_crash_deliver hcrash)
    (summary_of_crash_deliver hcrash) clock' (finish host a clock t l b rs).tree
  refine ⟨rfl, ?_, fun _ => ⟨htree _ _, (htree _ _).trans (htree _ _)⟩,
    fun hon => absurd hon hsave, fun p at_ e hp => ?_⟩
  · rw [ending_finish hcrash, ending_finish hcrash']
  · exact (congrArg (·.find p) (htree clock' (finish host a clock t l b rs).tree)).trans hp

end

/-- No link is broken that a report could complete so that it matters: not the file of settings, no
link with the suffix of code that a scan of the target meets, and none with the name of a report. -/
structure Unbroken (a : Arguments) (clock clock' : Nat → String) (t : FileTree) : Prop where
  settings : ¬t.Broken (Path.ofString ".env")
  scanned : t.ScanUnbroken (Path.ofString a.target) a.recursive
  reports : ∀ i, Report.Unbroken (outTree a t) (Path.ofString a.out) (clock i) ∧
    Report.Unbroken (outTree a t) (Path.ofString a.out) (clock' i)

theorem unbroken_of_no_link {t : FileTree} (h : ∀ e ∈ t.entries, ∀ target, e.2 ≠ .link target)
    (a : Arguments) (clock clock' : Nat → String) : Unbroken a clock clock' t := by
  have hmade : ∀ stamp, Report.Unbroken (outTree a t) (Path.ofString a.out) stamp := by
    intro stamp stem n
    obtain ⟨made, hadds, hmade⟩ := t.addsDirectories_ensureDirectory (Path.ofString a.out)
    refine FileTree.not_broken_of_no_link (fun e he target => ?_) _
    rw [outTree, hadds.entries] at he
    rcases List.mem_append.1 he with hold | hnew
    · exact h e hold target
    · intro hlink
      rw [hmade e hnew] at hlink
      cases hlink
  exact ⟨FileTree.not_broken_of_no_link h _, fun _ _ _ _ _ => FileTree.not_broken_of_no_link h _,
    fun i => ⟨hmade _, hmade _⟩⟩

variable {host : Host} {environment : List (String × String)} {args : List String}
  {t t' : FileTree} {l l' : Logger} {a : Arguments} {o : ReviewOptions Request Delivery}
  {files : List Path} {clock clock' : Nat → String}

theorem not_returns_refused (host : Host) (t : FileTree) (l : Logger) (message : ConsoleEntry) :
    ¬Returns (refused host t l message) := by
  cases hprints : host.prints message with
  | true =>
    rw [Returns, ending_refused hprints]
    decide
  | false =>
    rw [Returns, ending_refused_of_unprinted hprints]
    rintro (h | h) <;> cases h

theorem Stops.not_returns {done : CommandRun} (h : Stops host environment args t l done) :
    ¬Returns done := by
  cases h with
  | invalid | unknownPolicy | missingKey | noFiles | tooManyFiles => exact not_returns_refused _ _ _ _
  | unreadable | help | usage | notLevel | weights => rintro (h | h) <;> cases h

theorem Reaches.of_extends (h : Reaches environment args t l a o files) (ht : t.WellFormed)
    (hmore : Extends t t') (hsettings : ¬t.Broken (Path.ofString ".env"))
    (hscanned : t.ScanUnbroken (Path.ofString a.target) a.recursive) (l' : Logger) :
    Reaches environment args t' l' a o files where
  configured := by
    rw [loadSettings_of_extends hmore hsettings]
    exact h.configured
  logged := by rw [l'.isOk_configure, ← l.isOk_configure, h.logged]
  scanned := by
    rw [hmore.scan_eq ht (by rw [h.scanned]; exact h.found) hscanned, h.scanned]
  found := h.found
  few := h.few

theorem Reaches.again (h : Reaches environment args t l a o files) (l' : Logger) :
    Reaches environment args t l' a o files :=
  { h with logged := by rw [l'.isOk_configure, ← l.isOk_configure, h.logged] }

theorem course_of_reviewed {ss : List Slot} {b : BatchRun} {rs : List Review}
    (hb : Batch.review o a.workers (Slot.sources ss) = .done b) (hrs : b.outcome = .ok rs)
    {t : FileTree} (hslots : slots t files = .ok ss) (host : Host) (clock : Nat → String)
    (l : Logger) (answers : Nat → Delivery) :
    (reviewFiles host o a clock t l files).course answers 0 =
      ([], finish host a clock t l b (Slot.fill ss rs)) := by
  simp only [reviewFiles, hslots, hb, Dialogue.bind, Dialogue.course, hrs]

theorem course_of_fault {ss : List Slot} {b : BatchRun} {f : Binary64.NotInteger}
    (hb : Batch.review o a.workers (Slot.sources ss) = .done b) (hf : b.outcome = .error f)
    {t : FileTree} (hslots : slots t files = .ok ss) (host : Host) (clock : Nat → String)
    (l : Logger) (answers : Nat → Delivery) :
    ((reviewFiles host o a clock t l files).course answers 0).2.ending = .crash (.score f) := by
  simp only [reviewFiles, hslots, hb, Dialogue.bind, Dialogue.course, hf]

theorem Reaches.exists_finish (h : Reaches environment args t l a o files) (hhost : host.Lawful)
    (ho : o.assistant? = none) (reply : Request → Delivery)
    (hfinite : FinitePenalties o t reply files) (clock : Nat → String)
    (answers : Nat → Delivery) :
    ∃ l' b rs, List.Forall₂ (Review.OfFile o t reply) files rs ∧
      ((∀ p ∈ files, ∀ bytes, t.read p = .ok bytes → bytes.length < 2 ^ 63) →
        ∀ r ∈ rs, Shown host r) ∧
      (run host environment args clock t l).course answers 0 =
        ([], finish host a clock t l' b rs) := by
  obtain ⟨l', hrun⟩ := h.run_eq host clock
  obtain ⟨ss, hss, hslots⟩ := h.exists_slots
  obtain ⟨b, hb⟩ := Batch.exists_review_eq_done ho a.workers (Slot.sources ss)
  obtain ⟨batch, hbatch⟩ := (exists_batch_iff h.accepted hslots a.workers reply).2 hfinite
  have hmerged := merged_of_batch hbatch
  have houtcomes := hmerged.map_outcome (Batch.outcome_review_eq_ok_iff.1 hbatch)
  refine ⟨l', b, Slot.fill ss batch, Slot.reviews_ofFile hslots houtcomes,
    fun hsized => shown_of_makes hhost hsized hslots (Slot.makes_of_map_outcome houtcomes), ?_⟩
  rw [hb, Dialogue.result] at hbatch
  rw [hrun, course_of_reviewed hb hbatch hss]

theorem Reaches.after_finish (h : Reaches environment args t l a o files) (ht : t.WellFormed)
    (hb : a.save = true → Unbroken a clock clock' t) {l₁ : Logger} {b : BatchRun}
    {rs : List Review} (hreturns : Returns (finish host a clock t l₁ b rs)) (l' : Logger) :
    Reaches environment args (finish host a clock t l₁ b rs).tree l' a o files ∧
      slots (finish host a clock t l₁ b rs).tree files = slots t files := by
  by_cases hsave : a.save = true
  · have hunbroken := hb hsave
    obtain ⟨hmade, hmore⟩ := extends_of_crash_deliver ht hsave
      (fun i => (hunbroken.reports i).1) (crash_of_returns hreturns)
    have hextends := hmade.trans hmore
    refine ⟨h.of_extends ht hextends hunbroken.settings hunbroken.scanned l', ?_⟩
    rw [← h.scanned]
    exact slots_of_extends hextends
  · have htree : (finish host a clock t l₁ b rs).tree = t :=
      tree_deliver_unsaved hsave host clock rs t
    rw [htree]
    exact ⟨h.again l', rfl⟩

theorem repeats_finish (hhost : host.Lawful) (hclock : ∀ i, Report.IsStamp (clock i))
    (hclock' : ∀ i, Report.IsStamp (clock' i)) (h : Reaches environment args t l a o files)
    (ht : t.WellFormed) (hb : a.save = true → Unbroken a clock clock' t) {l₁ : Logger} {b : BatchRun}
    {rs : List Review} (hreturns : Returns (finish host a clock t l₁ b rs)) (l₂ : Logger) :
    Repeats a clock clock' t (finish host a clock t l₁ b rs)
      (finish host a clock' (finish host a clock t l₁ b rs).tree l₂ b rs) := by
  by_cases hsave : a.save = true
  · have htarget : t.exists_ (Path.ofString a.target) = true :=
      FileTree.exists_of_scan (by rw [h.scanned]; exact h.found)
    exact repeats_of_saved hhost hclock hclock' ht htarget hsave (hb hsave).reports hreturns l₂ b
  · exact repeats_of_unsaved hsave hreturns l₂ b

/-- If a run without an assistant returns, the next one in the tree that it has left reaches the
same files and repeats it, whatever the times of the two are. Where reports are saved, no link may
be broken that a report could complete. -/
theorem run_again (hhost : host.Lawful) {s : Settings} (hgiven : Given environment args t s a)
    (hai : a.ai = false) (ht : t.WellFormed) (hclock : ∀ i, Report.IsStamp (clock i))
    (hclock' : ∀ i, Report.IsStamp (clock' i)) (hb : a.save = true → Unbroken a clock clock' t)
    {answers : Nat → Delivery} {asked : List Request} {first : CommandRun}
    (hfirst : (run host environment args clock t l).course answers 0 = (asked, first))
    (hreturns : Returns first) (l' : Logger) (answers' : Nat → Delivery) :
    ∃ o files second, Reaches environment args t l a o files ∧
      Reaches environment args first.tree l' a o files ∧
      (run host environment args clock' first.tree l').course answers' 0 = ([], second) ∧
      Repeats a clock clock' t first second := by
  rcases run_cases host environment args clock t l with
    ⟨done, hstops, hrun⟩ | ⟨a', o, files, l₁, hreaches, hrun⟩
  · rw [hrun] at hfirst
    obtain ⟨-, rfl⟩ := Prod.mk.inj hfirst
    exact absurd hreturns hstops.not_returns
  obtain ⟨s', hload, hread, hconf⟩ := hreaches.configured
  obtain ⟨rfl, rfl⟩ := hgiven.unique ⟨hload, hread⟩
  have ho := (Settings.exists_of_configure hconf).2.2 hai
  obtain ⟨ss, hss, -⟩ := hreaches.exists_slots
  obtain ⟨b, hreview⟩ := Batch.exists_review_eq_done ho a.workers (Slot.sources ss)
  rw [hrun] at hfirst
  -- without an assistant the batch comes to an outcome that depends on its sources alone
  cases houtcome : b.outcome with
  | error f =>
    have hcrash := course_of_fault (a := a) hreview houtcome hss host clock l₁ answers
    rw [hfirst] at hcrash
    rcases hreturns with h | h
    · rw [h] at hcrash
      cases hcrash
    · rw [h] at hcrash
      cases hcrash
  | ok rs =>
    rw [course_of_reviewed hreview houtcome hss] at hfirst
    obtain ⟨-, rfl⟩ := Prod.mk.inj hfirst
    obtain ⟨hreaches', hslots⟩ := hreaches.after_finish ht hb hreturns l'
    obtain ⟨l₂, hrun'⟩ := hreaches'.run_eq host clock'
    refine ⟨o, files, _, hreaches, hreaches', ?_,
      repeats_finish hhost hclock hclock' hreaches ht hb hreturns l₂⟩
    rw [hrun', course_of_reviewed hreview houtcome (hslots.trans hss)]

def nestedTree : FileTree where
  entries := [
    (["src"], .directory),
    (["src", "a.js"], .file (Text.Utf8.encode "eval(x)".toList))]
  nodup := by decide

theorem wellFormed_nestedTree : nestedTree.WellFormed :=
  ⟨by decide, by decide, by decide⟩

theorem unbroken_nestedTree (a : Arguments) (clock clock' : Nat → String) :
    Unbroken a clock clock' nestedTree :=
  unbroken_of_no_link (by simp [nestedTree]) _ _ _

theorem reaches_nestedTree : ∃ a : Arguments,
    Given [] ["src", "--out", "src/reports"] nestedTree {} a ∧
      Reaches [] ["src", "--out", "src/reports"] nestedTree {} a {} [Path.ofString "src/a.js"] ∧
      a.ai = false ∧ a.out = "src/reports" ∧ a.target = "src" := by
  have hload : loadSettings [] nestedTree = .ok (.valid {}) := loadSettings_default (by cbv)
  have hargs : Argument.classifyAll ["src", "--out", "src/reports"] =
      .ok [.plain "src", .option .out "--out" none, .plain "src/reports"] := by decide +kernel
  have hwords : CommandWords.read {} false
      [.plain "src", .option .out "--out" none, .plain "src/reports"] =
        .ok { target := some "src", options := [(.out, .text "src/reports")] } := by cbv
  have hread := Arguments.read_of_words hargs hwords rfl rfl {}
  have hscan : nestedTree.scan (Path.ofString "src") true = [Path.ofString "src/a.js"] := by cbv
  have hreaches : Reaches [] ["src", "--out", "src/reports"] nestedTree {} _ {}
      [Path.ofString "src/a.js"] :=
    { configured := ⟨{}, hload, hread,
        Settings.configure_of_scoring (by decide +kernel) (by decide +kernel)⟩
      logged := by decide +kernel
      scanned := hscan
      found := by simp
      few := by decide +kernel }
  exact ⟨_, ⟨hload, hread⟩, hreaches, rfl, rfl, rfl⟩

theorem saveable_nestedTree {a : Arguments} (hout : a.out = "src/reports") :
    Saveable a (fun _ => "20240102_030405") nestedTree [Path.ofString "src/a.js"] := by
  have hmade : (nestedTree.ensureDirectory (Path.ofString a.out)).2 = none := by
    rw [hout]
    cbv
  have hbytes : nestedTree.read (Path.ofString "src/a.js") =
    .ok (Text.Utf8.encode "eval(x)".toList) := by cbv
  exact
    { sized := List.forall_mem_singleton.2 (FileTree.length_lt_of_read hbytes (by decide +kernel))
      made := fun _ => hmade
      usable := fun _ i => ((unbroken_nestedTree a (fun _ => "20240102_030405")
        (fun _ => "20240102_030405")).reports i).1.usable
          (FileTree.isDirectory_of_ensureDirectory (Path.clean_ofString _) hmade) }

theorem tells_nestedTree {a : Arguments} (hout : a.out = "src/reports") (htarget : a.target = "src") :
    Tells quietHost a (fun _ => "20240102_030405") nestedTree [Path.ofString "src/a.js"] := by
  have hparent : reportRoot (nestedTree.ensureDirectory (Path.ofString "src/reports")).1
      (Path.ofString "src") = Path.ofString "src" := by cbv
  have hroot : outRoot a nestedTree = some (Path.ofString "src") := by
    rw [outRoot, outTree, hout, htarget, hparent]
  refine fun _ => List.forall_mem_singleton.2 fun _ n => ?_
  rw [hroot, hout, reportPath, lawful_quietHost.prints_saved isStamp_sample]
  decide +kernel

theorem run_again_nested :
    ∃ (a : Arguments) (first second : CommandRun),
      quietHost.Lawful ∧
      Given [] ["src", "--out", "src/reports"] nestedTree {} a ∧ a.ai = false ∧
      nestedTree.WellFormed ∧
      Report.IsStamp "20240102_030405" ∧
      (a.save = true →
        Unbroken a (fun _ => "20240102_030405") (fun _ => "20240102_030405") nestedTree) ∧
      (run quietHost [] ["src", "--out", "src/reports"] (fun _ => "20240102_030405") nestedTree
        {}).course (fun _ => .timedOut) 0 = ([], first) ∧
      Returns first ∧
      (run quietHost [] ["src", "--out", "src/reports"] (fun _ => "20240102_030405") first.tree
        {}).course (fun _ => .timedOut) 0 = ([], second) ∧
      Repeats a (fun _ => "20240102_030405") (fun _ => "20240102_030405") nestedTree first
        second := by
  obtain ⟨a, hgiven, hreaches, hai, hout, htarget⟩ := reaches_nestedTree
  have hfinite : FinitePenalties {} nestedTree (fun _ : Request => Delivery.timedOut)
      [Path.ofString "src/a.js"] :=
    finitePenalties_of_bounded (by decide +kernel) (by decide +kernel) _ _ _
  have hsaveable := saveable_nestedTree hout
  have hunbroken := unbroken_nestedTree a (fun _ => "20240102_030405") (fun _ => "20240102_030405")
  obtain ⟨l', b, rs, hrs, hshown, hfirst⟩ := hreaches.exists_finish lawful_quietHost rfl _ hfinite
    (fun _ => "20240102_030405") fun _ => .timedOut
  have hreturns : Returns (finish quietHost a (fun _ => "20240102_030405") nestedTree l' b rs) := by
    have hend := delivered_or_untold hsaveable (hshown hsaveable.sized)
      (fun _ => lawful_quietHost.prints_of_escaped (ConsoleEntry.escaped_summary _)) l' b
    refine (hend.resolve_right ?_).ended
    rintro ⟨p, hp⟩
    exact (tells_nestedTree hout htarget).not_untold (Review.map_filename_of_ofFile hrs) p hp
  obtain ⟨o, files, second, -, -, hsecond, hrepeats⟩ :=
    run_again lawful_quietHost hgiven hai wellFormed_nestedTree (fun _ => isStamp_sample)
      (fun _ => isStamp_sample) (fun _ => hunbroken) hfirst hreturns {} fun _ => .timedOut
  exact ⟨a, _, second, lawful_quietHost, hgiven, hai, wellFormed_nestedTree, isStamp_sample,
    fun _ => hunbroken, hfirst, hreturns, hsecond, hrepeats⟩

/-- A link with the suffix of code leads to where the report on the other file comes to be. -/
def feedingTree : FileTree where
  entries := [(["a.js"], .file []), (["l.py"], .link "reports/a_js_20240102_030405.json")]
  nodup := by decide

def madeTree : FileTree :=
  feedingTree.put ["reports"] .directory

def fedTree (bytes : List UInt8) : FileTree :=
  madeTree.put ["reports", "a_js_20240102_030405.json"] (.file bytes)

theorem save_madeTree {r : Review} (h : r.filename = "a.js") (hshort : r.hasLongLine = false) :
    Report.save madeTree (Path.ofString "reports") "20240102_030405" (some (Path.ofString ".")) r =
      .ok (Path.ofString "reports/a_js_20240102_030405.json", fedTree (Report.bytes r)) := by
  have hstem : Report.stem "a.js" (some (Path.ofString ".")) = "a_js" := by decide +kernel
  have hname : (Path.ofString "reports").join [Report.fileName "a_js" "20240102_030405" 1] =
      Path.ofString "reports/a_js_20240102_030405.json" := by decide +kernel
  have hfind : madeTree.find (Path.ofString "reports/a_js_20240102_030405.json") =
      .ok (.free ["reports", "a_js_20240102_030405.json"]) := by cbv
  have hfree : madeTree.exists_ (Path.ofString "reports/a_js_20240102_030405.json") = false := by
    rw [FileTree.exists_, hfind]
  rw [Report.save_of_short hshort]
  simp only [h, hstem, Report.firstFree, hname, hfree, FileTree.write, hfind, Bool.false_eq_true,
    if_false]
  rfl

theorem finish_feedingTree {a : Arguments} (hsave : a.save = true) (hout : a.out = "reports")
    (htarget : a.target = ".") {r : Review} (hr : r.filename = "a.js") (hshown : Shown quietHost r)
    (l : Logger) (b : BatchRun) :
    (finish quietHost a (fun _ => "20240102_030405") feedingTree l b [r]).tree =
        fedTree (Report.bytes r) ∧
      (finish quietHost a (fun _ => "20240102_030405") feedingTree l b [r]).ending =
        .status (verdict a.failUnder [r]) := by
  have htree : outTree a feedingTree = madeTree := by
    rw [outTree, hout]
    cbv
  have hmade : makeOut a feedingTree = { tree := madeTree } := by
    have hnone : (feedingTree.ensureDirectory (Path.ofString a.out)).2 = none := by
      rw [hout]
      cbv
    rw [makeOut_of_save hsave, htree, hnone]
    rfl
  have hreports : reports a madeTree = some (Path.ofString "reports", some (Path.ofString ".")) := by
    have hroot : reportRoot madeTree (Path.ofString ".") = Path.ofString "." := by cbv
    rw [reports, if_pos hsave, hout, htarget, hroot]
  have hkeep : keep quietHost (some (Path.ofString "reports", some (Path.ofString ".")))
      "20240102_030405" r madeTree =
        print quietHost (fedTree (Report.bytes r))
          [.saved (Path.ofString "reports/a_js_20240102_030405.json")] :=
    keep_of_save (save_madeTree hr hshown.short)
  have hprints : quietHost.prints
      (.saved (Path.ofString "reports/a_js_20240102_030405.json")) = true := by decide +kernel
  rw [print_of_prints (List.forall_mem_singleton.2 hprints)] at hkeep
  obtain ⟨hrest, hcrash⟩ := present_cons_of_keep (fun _ => "20240102_030405") 0 hshown
    (congrArg Progress.crash hkeep) []
  rw [hkeep] at hrest hcrash
  have hend : (deliver quietHost a (fun _ => "20240102_030405") [r] feedingTree).crash = none := by
    rw [crash_deliver_eq_none_iff, hmade, hreports]
    exact ⟨rfl, hcrash, fun h => absurd h (Nat.lt_irrefl 1)⟩
  refine ⟨?_, ending_finish hend l b⟩
  have hdelivered := tree_deliver (congrArg Progress.crash hmade) quietHost
    (fun _ => "20240102_030405") [r]
  rw [hmade, hreports, hrest] at hdelivered
  exact hdelivered

theorem wellFormed_feedingTree : feedingTree.WellFormed :=
  ⟨by decide, by decide, by decide⟩

theorem sized_feedingTree : ∀ p ∈ [Path.ofString "a.js"], ∀ bytes,
    feedingTree.read p = .ok bytes → bytes.length < 2 ^ 63 := by
  have hbytes : feedingTree.read (Path.ofString "a.js") = .ok [] := by cbv
  exact List.forall_mem_singleton.2 (FileTree.length_lt_of_read hbytes (by decide))

theorem reaches_in_place : ∃ a : Arguments,
    (∀ {t : FileTree} {files : List Path}, settingsFile t = .ok none →
      t.scan (Path.ofString ".") true = files → files ≠ [] → (files.length : Int) ≤ 2 →
        Given [] ["."] t {} a ∧ Reaches [] ["."] t {} a {} files) ∧
    a.ai = false ∧ a.save = true ∧ a.out = "reports" ∧ a.target = "." := by
  have hargs : Argument.classifyAll ["."] = .ok [.plain "."] := by decide +kernel
  have hwords : CommandWords.read {} false [.plain "."] = .ok { target := some "." } := by cbv
  have hread := Arguments.read_of_words hargs hwords rfl rfl {}
  have hmax : (2 : Int) ≤ (Arguments.ofWords {} "." { target := some "." }).maxFiles := by
    decide +kernel
  refine ⟨_, fun hfile hscan hfound hfew => ⟨⟨loadSettings_default hfile, hread⟩, ?_⟩, rfl, rfl, rfl,
    rfl⟩
  exact
    { configured := ⟨{}, loadSettings_default hfile, hread,
        Settings.configure_of_scoring (by decide +kernel) (by decide +kernel)⟩
      logged := by decide +kernel
      scanned := hscan
      found := hfound
      few := hfew.trans hmax }

/-- The report on the first file is reviewed by the second run, through the link. -/
theorem not_again_through_link :
    ∃ (a : Arguments) (first second : CommandRun),
      quietHost.Lawful ∧ Given [] ["."] feedingTree {} a ∧ a.ai = false ∧
      feedingTree.WellFormed ∧ Report.IsStamp "20240102_030405" ∧
      (run quietHost [] ["."] (fun _ => "20240102_030405") feedingTree {}).course
        (fun _ => .timedOut) 0 = ([], first) ∧
      Returns first ∧
      (run quietHost [] ["."] (fun _ => "20240102_030405") first.tree {}).course
        (fun _ => .timedOut) 0 = ([], second) ∧
      first.reviews.map (·.filename) = ["a.js"] ∧
      second.reviews.map (·.filename) = ["a.js", "l.py"] := by
  obtain ⟨a, hreaches, hai, hsave, hout, htarget⟩ := reaches_in_place
  have hfinite : ∀ t files,
      FinitePenalties (A := Delivery) {} t (fun _ : Request => .timedOut) files :=
    fun t files => finitePenalties_of_bounded (by decide +kernel) (by decide +kernel) t _ files
  have hfile : settingsFile feedingTree = .ok none := by cbv
  have hscan : feedingTree.scan (Path.ofString ".") true = [Path.ofString "a.js"] := by cbv
  obtain ⟨hgiven, hfirst⟩ := hreaches hfile hscan (by simp) (by decide)
  -- the first run reviews one file, and saves the report to which the link leads
  obtain ⟨l₁, b, rs, hrs, hshown, hfirst⟩ := hfirst.exists_finish lawful_quietHost rfl _
    (hfinite _ _) (fun _ => "20240102_030405") fun _ => .timedOut
  have hnames := Review.map_filename_of_ofFile hrs
  obtain ⟨r, rfl⟩ : ∃ r, rs = [r] := List.length_eq_one_iff.1 hrs.length_eq.symm
  have hname : [Path.ofString "a.js"].map Path.toString = ["a.js"] := by decide +kernel
  obtain ⟨htree, hending⟩ := finish_feedingTree hsave hout htarget
    (List.singleton_inj.1 (hnames.trans hname)) (hshown sized_feedingTree r List.mem_cons_self) l₁ b
  have hreturns : Returns (finish quietHost a (fun _ => "20240102_030405") feedingTree l₁ b [r]) :=
    (ended_of_verdict hending).2
  -- what the second run finds there does not depend on what the report says
  generalize Report.bytes r = bytes at htree
  have hfile' : settingsFile (fedTree bytes) = .ok none := by cbv
  have hscan' : (fedTree bytes).scan (Path.ofString ".") true =
      [Path.ofString "a.js", Path.ofString "l.py"] := by cbv
  obtain ⟨l₂, b', rs', hrs', -, hsecond⟩ :=
    (hreaches hfile' hscan' (by simp) (by decide)).2.exists_finish lawful_quietHost rfl _
      (hfinite _ _) (fun _ => "20240102_030405") fun _ => .timedOut
  rw [← htree] at hsecond
  have hname' : [Path.ofString "a.js", Path.ofString "l.py"].map Path.toString =
      ["a.js", "l.py"] := by decide +kernel
  exact ⟨a, _, _, lawful_quietHost, hgiven, hai, wellFormed_feedingTree, isStamp_sample, hfirst,
    hreturns, hsecond, hnames.trans hname, (Review.map_filename_of_ofFile hrs').trans hname'⟩

end CommandLine

end CodeReview
