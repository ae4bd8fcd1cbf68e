import Mathlib
import CodeReview.Page
import CodeReview.Proofs.CommandLine.Run
import CodeReview.Proofs.Review.Concurrent

/-!
The page and the command line agree. Given the same files, settings and choices, they ask the same
questions and come to the same reviews, and neither the number of their workers nor the order of
their turns matters.
-/

namespace CodeReview.Page

def UploadsOf (t : FileTree) (files : List Path) (uploads : List Upload) : Prop :=
  List.Forall₂ (fun p u => p.toString = u.name ∧ t.read p = .ok u.bytes) files uploads

def uploadSlots (uploads : List Upload) : List Slot :=
  uploads.map fun u => Slot.ofBytes u.name u.bytes

theorem slots_of_uploads {t : FileTree} {files : List Path} {uploads : List Upload}
    (h : UploadsOf t files uploads) :
    CommandLine.slots t files = .ok (uploadSlots uploads) ∧
      List.Forall₂ (Slot.OfFile t) files (uploadSlots uploads) := by
  induction h with
  | nil => exact ⟨rfl, .nil⟩
  | cons hfile _ ih =>
    obtain ⟨hname, hread⟩ := hfile
    rw [uploadSlots, List.map_cons, ← hname]
    refine ⟨?_, .cons ⟨_, hread, rfl⟩ ih.2⟩
    simp only [CommandLine.slots, hread, ih.1, Except.map, uploadSlots]

/-- The command line and the page are given the same files, settings and choices, and the page is to
review them. -/
structure SameWork (environment : List (String × String)) (args : List String) (t : FileTree)
    (l : Logger) (sources : SettingsSources) (i : PageInput) (s : Settings) (a : Arguments) :
    Prop where
  settings : CommandLine.loadSettings environment t = .ok (.valid s)
  pageSettings : Settings.load sources = .valid s
  arguments : Arguments.read s args = .ok a
  logged : (l.configure a.logLevel).isOk = true
  choices : choices s i = a.choices
  uploads : UploadsOf t (t.scan (Path.ofString a.target) a.recursive) i.uploads
  found : i.uploads ≠ []
  few : (i.uploads.length : Int) ≤ a.maxFiles
  review : i.review = true
  clear : i.clear = false

/-- Pools of any number of workers that review the slots come to their ends, and at the end of each
the reviews of its batch make these reviews of the slots. -/
structure OnAnyPool {Q A : Type} (o : ReviewOptions Q A) (reply : Q → A) (ss : List Slot)
    (reviews : List Review) : Prop where
  ends (wanted : Int) : WellFounded fun q p : Pool Q A ReviewRun =>
    Pool.Turn reply (Batch.workers wanted (Slot.sources ss).length) p q
  goesOn (wanted : Int) (p : Pool Q A ReviewRun)
    (turns : Pool.Turns reply (Batch.workers wanted (Slot.sources ss).length)
      (Batch.pool o (Slot.sources ss)) p) :
    (∃ q, Pool.Turn reply (Batch.workers wanted (Slot.sources ss).length) p q) ↔
      Batch.ofPool? (Batch.workers wanted (Slot.sources ss).length) p = none
  reviews (wanted : Int) (p : Pool Q A ReviewRun) (run : BatchRun)
    (turns : Pool.Turns reply (Batch.workers wanted (Slot.sources ss).length)
      (Batch.pool o (Slot.sources ss)) p)
    (ended : Batch.ofPool? (Batch.workers wanted (Slot.sources ss).length) p = some run) :
    ∃ batch, run.outcome = .ok batch ∧ Slot.fill ss batch = reviews

theorem onAnyPool_of_batch {Q A : Type} {o : ReviewOptions Q A} {reply : Q → A} {ss : List Slot}
    {batch : List Review} {n : Int}
    (h : ((Batch.review o n (Slot.sources ss)).result reply).outcome = .ok batch) :
    OnAnyPool o reply ss (Slot.fill ss batch) where
  ends _ := Pool.wellFounded_turn _ _
  goesOn wanted p turns := by
    rw [Pool.exists_turn_iff (Batch.workers_pos _ _), Batch.ofPool?_eq_none_iff]
  reviews wanted p run turns ended :=
    ⟨batch, (Batch.outcome_of_turns turns ended n).1.trans h, rfl⟩

structure Clicks (i : PageInput) : Prop where
  uploads : i.uploads ≠ []
  review : i.review = true
  clear : i.clear = false

namespace Clicks

variable {s : Settings} {i : PageInput} {sources : SettingsSources}

theorem visit_eq (h : Clicks i) (hload : Settings.load sources = .valid s)
    (describe : SettingsSources → List FieldError → String) (state : PageState) :
    visit describe sources i state = match s.configure (choices s i) with
      | .error (.refused m) =>
        .done { elements := controls s ++ [.text .error m, .stop], state := state }
      | .error (.failed c) => .done { elements := controls s, state := state, crash := some c }
      | .ok o => reviewUploads o s.maxWorkers i (controls s) state := by
  have huploads : i.uploads.isEmpty = false := by simpa using h.uploads
  unfold visit
  rw [hload]
  dsimp only
  unfold visitWith
  rw [h.clear, huploads, h.review]
  cases s.configure (choices s i) with
  | error e => cases e <;> rfl
  | ok o => rfl

end Clicks

theorem state_showState (i : PageInput) (drawn : List PageElement) (state : PageState) :
    (showState i drawn state).state = state := by
  rw [showState]
  split
  · rfl
  · rfl

theorem crash_showState {reviews : List Review} (h : ∀ r ∈ reviews, r.hasLongLine = false)
    (i : PageInput) (drawn : List PageElement) :
    (showState i drawn ⟨some reviews⟩).crash = none := by
  cases reviews with
  | nil => rfl
  | cons r rs =>
    have hnone : ¬(r :: rs).any Review.hasLongLine = true := by
      rw [List.any_eq_true]
      rintro ⟨r', hr', hlong⟩
      rw [h r' hr'] at hlong
      cases hlong
    exact if_neg hnone

theorem not_hasLongLine_of_uploads {p : Policy} {uploads : List Upload} {reviews : List Review}
    (h : List.Forall₂ (Slot.Makes p) (uploadSlots uploads) reviews) :
    ∀ r ∈ reviews, r.hasLongLine = false := by
  induction uploads generalizing reviews with
  | nil =>
    cases h
    exact List.forall_mem_nil _
  | cons u us ih =>
    rw [uploadSlots, List.map_cons] at h
    cases h with
    | cons made rest => exact List.forall_mem_cons.2 ⟨made.not_hasLongLine u.fits, ih rest⟩

namespace SameWork

variable {environment : List (String × String)} {args : List String} {t : FileTree} {l : Logger}
  {sources : SettingsSources} {i : PageInput} {s : Settings} {a : Arguments}

theorem reaches (h : SameWork environment args t l sources i s a)
    {o : ReviewOptions Request Delivery} (ho : s.configure a.choices = .ok o) :
    CommandLine.Reaches environment args t l a o
      (t.scan (Path.ofString a.target) a.recursive) where
  configured := ⟨s, h.settings, h.arguments, ho⟩
  logged := h.logged
  scanned := rfl
  found hnone := by
    have hlen := h.uploads.length_eq
    rw [hnone, List.length_nil] at hlen
    exact h.found (List.length_eq_zero_iff.1 hlen.symm)
  few := by
    rw [h.uploads.length_eq]
    exact h.few

theorem clicks (h : SameWork environment args t l sources i s a) : Clicks i where
  uploads := h.found
  review := h.review
  clear := h.clear

theorem visit_of_configured (h : SameWork environment args t l sources i s a)
    {o : ReviewOptions Request Delivery} (ho : s.configure a.choices = .ok o)
    (describe : SettingsSources → List FieldError → String) (state : PageState) :
    visit describe sources i state = reviewUploads o s.maxWorkers i (controls s) state := by
  rw [h.clicks.visit_eq h.pageSettings, h.choices, ho]

theorem unconfigured (h : SameWork environment args t l sources i s a) {e : ConfigurationError}
    (he : s.configure a.choices = .error e) (host : Host) (clock : Nat → String)
    (state : PageState) :
    (∃ run : CommandRun, CommandLine.run host environment args clock t l = .done run ∧
      run.reviews = []) ∧
    ∃ page : PageRun, visit host.describe sources i state = .done page ∧ page.state = state := by
  constructor
  · obtain ⟨l', hl⟩ := Logger.exists_of_isOk h.logged
    rw [CommandLine.run_of_read h.settings h.arguments hl]
    unfold CommandLine.runWith
    rw [he]
    cases e with
    | refused m => exact ⟨_, rfl, rfl⟩
    | failed c => exact ⟨_, rfl, rfl⟩
  · rw [h.clicks.visit_eq h.pageSettings, h.choices, he]
    cases e with
    | refused m => exact ⟨_, rfl, rfl⟩
    | failed c => exact ⟨_, rfl, rfl⟩

end SameWork

section

variable {o : ReviewOptions Request Delivery} {reply : Request → Delivery} {n : Int}

theorem reviewUploads_of_batch {i : PageInput} {batch : List Review}
    (h : ((Batch.review o n (Slot.sources (uploadSlots i.uploads))).result reply).outcome =
      .ok batch)
    (drawn : List PageElement) (state : PageState) :
    ((reviewUploads o n i drawn state).result reply).state =
        ⟨some (Slot.fill (uploadSlots i.uploads) batch)⟩ ∧
      ((reviewUploads o n i drawn state).result reply).crash = none := by
  have houtcomes :=
    (CommandLine.merged_of_batch h).map_outcome (Batch.outcome_review_eq_ok_iff.1 h)
  have hshort := not_hasLongLine_of_uploads (Slot.makes_of_map_outcome houtcomes)
  rw [uploadSlots] at h hshort ⊢
  simp only [reviewUploads, Dialogue.result_bind, Dialogue.result, h]
  exact ⟨state_showState _ _ _, crash_showState hshort _ _⟩

theorem reviewUploads_of_fault {i : PageInput} {f : Binary64.NotInteger}
    (h : ((Batch.review o n (Slot.sources (uploadSlots i.uploads))).result reply).outcome =
      .error f)
    (drawn : List PageElement) (state : PageState) :
    ((reviewUploads o n i drawn state).result reply).state = state ∧
      ((reviewUploads o n i drawn state).result reply).crash = some (.score f) := by
  rw [uploadSlots] at h
  simp only [reviewUploads, Dialogue.result_bind, Dialogue.result, h, and_self]

variable {t : FileTree} {files : List Path} {ss : List Slot} {a : Arguments}

theorem reviewFiles_of_batch (hslots : CommandLine.slots t files = .ok ss) {batch : List Review}
    (h : ((Batch.review o a.workers (Slot.sources ss)).result reply).outcome = .ok batch)
    (host : Host) (clock : Nat → String) (l : Logger) :
    ((CommandLine.reviewFiles host o a clock t l files).result reply).reviews =
      Slot.fill ss batch := by
  simp only [CommandLine.reviewFiles, hslots, Dialogue.result_bind, Dialogue.result, h,
    CommandLine.finish]

theorem reviewFiles_of_fault (hslots : CommandLine.slots t files = .ok ss)
    {f : Binary64.NotInteger}
    (h : ((Batch.review o a.workers (Slot.sources ss)).result reply).outcome = .error f)
    (host : Host) (clock : Nat → String) (l : Logger) :
    ((CommandLine.reviewFiles host o a clock t l files).result reply).reviews = [] ∧
      ((CommandLine.reviewFiles host o a clock t l files).result reply).ending =
        .crash (.score f) := by
  simp only [CommandLine.reviewFiles, hslots, Dialogue.result_bind, Dialogue.result, h, and_self]

theorem questions_reviewFiles {i : PageInput}
    (hslots : CommandLine.slots t files = .ok (uploadSlots i.uploads)) (host : Host)
    (clock : Nat → String) (l : Logger) (n : Int) (drawn : List PageElement) (state : PageState) :
    (CommandLine.reviewFiles host o a clock t l files).questions reply =
      (reviewUploads o n i drawn state).questions reply := by
  simp only [CommandLine.reviewFiles, hslots, reviewUploads, Batch.review,
    Dialogue.questions_bind, Dialogue.questions, uploadSlots, List.append_nil]

end

/-- The page keeps the reviews that the command line computes of the same files, with the same
settings and choices; both ask the same questions, and any number of workers comes to these reviews.
Where a penalty is no finite number both break off with the same fault, and where the choices are
refused neither reviews anything. -/
theorem page_keeps_command_line_reviews {environment : List (String × String)} {args : List String}
    {t : FileTree} {l : Logger} {sources : SettingsSources} {i : PageInput} {s : Settings}
    {a : Arguments} (h : SameWork environment args t l sources i s a) (host : Host)
    (clock : Nat → String) (state : PageState) (reply : Request → Delivery) :
    ∃ (done : CommandRun) (page : PageRun),
      (CommandLine.run host environment args clock t l).result reply = done ∧
      (visit host.describe sources i state).result reply = page ∧
      (CommandLine.run host environment args clock t l).questions reply =
        (visit host.describe sources i state).questions reply ∧
      CommandLine.slots t (t.scan (Path.ofString a.target) a.recursive) =
        .ok (uploadSlots i.uploads) ∧
      (∀ o, s.configure a.choices = .ok o →
        (FinitePenalties o t reply (t.scan (Path.ofString a.target) a.recursive) →
          page.crash = none ∧ page.state.reviews = some done.reviews ∧
          OnAnyPool o reply (uploadSlots i.uploads) done.reviews) ∧
        (¬FinitePenalties o t reply (t.scan (Path.ofString a.target) a.recursive) →
          done.reviews = [] ∧ page.state = state ∧
          ∃ f, done.ending = .crash (.score f) ∧ page.crash = some (.score f))) ∧
      ∀ e, s.configure a.choices = .error e → done.reviews = [] ∧ page.state = state := by
  obtain ⟨hslots, hfiles⟩ := slots_of_uploads h.uploads
  refine ⟨_, _, rfl, rfl, ?_, hslots, fun o ho => ?_, fun e he => ?_⟩
  · cases ho : s.configure a.choices with
    | error e =>
      obtain ⟨⟨run, hrun, -⟩, page, hpage, -⟩ := h.unconfigured ho host clock state
      rw [hrun, hpage, Dialogue.questions, Dialogue.questions]
    | ok o =>
      obtain ⟨l', hrun⟩ := (h.reaches ho).run_eq host clock
      rw [hrun, h.visit_of_configured ho]
      exact questions_reviewFiles hslots host clock l' _ _ _
  · obtain ⟨l', hrun⟩ := (h.reaches ho).run_eq host clock
    -- both hand the same batch on, which has its reviews whatever the number of workers
    have hbatch := CommandLine.exists_batch_iff (h.reaches ho).accepted hfiles a.workers reply
    have hsame := Batch.outcome_review_congr o s.maxWorkers a.workers
      (Slot.sources (uploadSlots i.uploads)) reply
    rw [hrun, h.visit_of_configured ho]
    refine ⟨fun hfinite => ?_, fun hfinite => ?_⟩
    · obtain ⟨batch, hb⟩ := hbatch.2 hfinite
      obtain ⟨hstate, hcrash⟩ := reviewUploads_of_batch (hsame.trans hb) (controls s) state
      rw [hstate, hcrash, reviewFiles_of_batch hslots hb]
      exact ⟨rfl, rfl, onAnyPool_of_batch hb⟩
    · cases hb : ((Batch.review o a.workers
          (Slot.sources (uploadSlots i.uploads))).result reply).outcome with
      | ok batch => exact absurd (hbatch.1 ⟨batch, hb⟩) hfinite
      | error f =>
        obtain ⟨hstate, hcrash⟩ := reviewUploads_of_fault (hsame.trans hb) (controls s) state
        obtain ⟨hreviews, hending⟩ := reviewFiles_of_fault (a := a) hslots hb host clock l'
        exact ⟨hreviews, hstate, f, hending, hcrash⟩
  · obtain ⟨⟨run, hrun, hreviews⟩, page, hpage, hstate⟩ := h.unconfigured he host clock state
    rw [hrun, hpage]
    exact ⟨hreviews, hstate⟩

def callUpload (name : String) : Upload where
  name := name
  bytes := Text.Utf8.encode "eval(x)".toList

def binaryUpload (name : String) : Upload where
  name := name
  bytes := [0]

def mixedInput : PageInput where
  uploads := [callUpload "src/a.js", binaryUpload "src/b.py"]
  review := true

theorem page_keeps_mixed_reviews :
    ∃ (a : Arguments) (done : CommandRun) (page : PageRun),
      SameWork [] ["src", "--no-save"] CommandLine.mixedTree {} { environment := [] } mixedInput {}
        a ∧
      Settings.configure {} a.choices = .ok {} ∧
      FinitePenalties {} CommandLine.mixedTree (fun _ : Request => Delivery.timedOut)
        (CommandLine.mixedTree.scan (Path.ofString a.target) a.recursive) ∧
      (CommandLine.run CommandLine.quietHost [] ["src", "--no-save"] (fun _ => "20240102_030405")
        CommandLine.mixedTree {}).result (fun _ => .timedOut) = done ∧
      (visit CommandLine.quietHost.describe { environment := [] } mixedInput {}).result
        (fun _ => .timedOut) = page ∧
      page.state.reviews = some done.reviews := by
  have hload : CommandLine.loadSettings [] CommandLine.mixedTree = .ok (.valid {}) :=
    CommandLine.loadSettings_default (by cbv)
  have hargs : Argument.classifyAll ["src", "--no-save"] =
      .ok [.plain "src", .option .noSave "--no-save" none] := by decide +kernel
  have hwords : CommandWords.read {} false [.plain "src", .option .noSave "--no-save" none] =
      .ok { target := some "src", options := [(.noSave, .none)] } := by cbv
  have hscan : CommandLine.mixedTree.scan (Path.ofString "src") true =
      [Path.ofString "src/a.js", Path.ofString "src/b.py"] := by cbv
  have huploads : UploadsOf CommandLine.mixedTree
      (CommandLine.mixedTree.scan (Path.ofString "src") true) mixedInput.uploads := by
    rw [hscan]
    exact .cons ⟨by decide +kernel, by cbv⟩ (.cons ⟨by decide +kernel, by cbv⟩ .nil)
  have hsame : SameWork [] ["src", "--no-save"] CommandLine.mixedTree {} { environment := [] }
      mixedInput {} _ :=
    { settings := hload
      pageSettings := by decide +kernel
      arguments := Arguments.read_of_words hargs hwords rfl rfl {}
      logged := by decide +kernel
      choices := by decide +kernel
      uploads := huploads
      found := by simp [mixedInput]
      few := by decide +kernel
      review := rfl
      clear := rfl }
  have hconfigure : Settings.configure {} (Arguments.ofWords {} "src"
      { target := some "src", options := [(.noSave, .none)] }).choices = .ok {} :=
    Settings.configure_of_scoring (by decide +kernel) (by decide +kernel)
  have hfinite : FinitePenalties {} CommandLine.mixedTree
      (fun _ : Request => Delivery.timedOut) (CommandLine.mixedTree.scan (Path.ofString "src") true) :=
    finitePenalties_of_bounded (by decide +kernel) (by decide +kernel) _ _ _
  obtain ⟨done, page, hdone, hpage, -, -, hall, -⟩ :=
    page_keeps_command_line_reviews hsame CommandLine.quietHost (fun _ => "20240102_030405") {}
      fun _ => .timedOut
  exact ⟨_, done, page, hsame, hconfigure, hfinite, hdone, hpage,
    ((hall _ hconfigure).1 hfinite).2.1⟩

end CodeReview.Page
