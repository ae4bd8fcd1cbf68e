import CodeReview.Proofs.Page.Agreement
import CodeReview.Proofs.Review.Course

/-!
Visits of the page, one after the other. What the page keeps is what the last of them made that made
any reviews, unless they were cleared since; no other visit changes it, and nothing else is shown.
-/

namespace CodeReview

def PageElement.isOfReview : PageElement → Bool
  | .expander _ _ => true
  | .findings _ => true
  | .download _ _ _ _ => true
  | _ => false

structure PageVisit where
  describe : SettingsSources → List FieldError → String := fun _ _ => ""
  environment : List (String × String) := []
  tree : FileTree
  input : PageInput := {}
  answers : Nat → Delivery := fun _ => .timedOut

namespace PageVisit

def settings (v : PageVisit) : Except Text.Utf8.Fault (Checked Settings) :=
  CommandLine.loadSettings v.environment v.tree

def run (v : PageVisit) (state : PageState) : PageRun :=
  match CommandLine.settingsSources v.environment v.tree with
  | .error fault => { elements := [], state := state, crash := some (.unreadableSettings fault) }
  | .ok sources => ((Page.visit v.describe sources v.input state).course v.answers 0).2

structure Clears (v : PageVisit) : Prop where
  settings : ∃ s, v.settings = .ok (.valid s)
  clear : v.input.clear = true

/-- The click of a visit makes these reviews: its batch is completed, and its reviews stand with
those of the uploads that are no text in the order of all the uploads. -/
inductive Makes (v : PageVisit) (reviews : List Review) : Prop
  | intro {s : Settings} {o : ReviewOptions Request Delivery} {batch : List Review}
      (settings : v.settings = .ok (.valid s)) (open_ : v.input.clear = false)
      (uploads : v.input.uploads ≠ []) (review : v.input.review = true)
      (configured : s.configure (Page.choices s v.input) = .ok o)
      (completed : ((Batch.review o s.maxWorkers
        (Slot.sources (Page.uploadSlots v.input.uploads))).course v.answers 0).2.outcome = .ok batch)
      (merged : Slot.Merged (Page.uploadSlots v.input.uploads) batch reviews)

def Idle (v : PageVisit) : Prop :=
  ¬v.Clears ∧ ∀ reviews, ¬v.Makes reviews

variable {v : PageVisit} {s : Settings} {reviews : List Review}

theorem Makes.unique {reviews' : List Review} (h : v.Makes reviews) (h' : v.Makes reviews') :
    reviews = reviews' := by
  obtain ⟨hs, _, _, _, ho, hbatch, hmerged⟩ := h
  obtain ⟨hs', _, _, _, ho', hbatch', hmerged'⟩ := h'
  obtain rfl := Checked.valid.inj (Except.ok.inj (hs.symm.trans hs'))
  obtain rfl := Except.ok.inj (ho.symm.trans ho')
  obtain rfl := Except.ok.inj (hbatch.symm.trans hbatch')
  rw [hmerged.eq_fill, hmerged'.eq_fill]

theorem Makes.exists_comesTo (h : v.Makes reviews) :
    ∃ s o, v.settings = .ok (.valid s) ∧ s.configure (Page.choices s v.input) = .ok o ∧
      List.Forall₂ (Slot.ComesTo o v.answers) (Page.uploadSlots v.input.uploads) reviews := by
  obtain ⟨hs, _, _, _, ho, hbatch, hmerged⟩ := h
  exact ⟨_, _, hs, ho, hmerged.comesTo (Batch.course_review hbatch)⟩

theorem Makes.not_hasLongLine (h : v.Makes reviews) : ∀ r ∈ reviews, r.hasLongLine = false := by
  obtain ⟨s, o, -, -, hall⟩ := h.exists_comesTo
  exact Page.not_hasLongLine_of_uploads (hall.imp fun _ _ => Slot.ComesTo.makes)

theorem Makes.ne_nil (h : v.Makes reviews) : reviews ≠ [] := by
  obtain ⟨_, _, huploads⟩ := id h
  obtain ⟨_, _, _, _, hall⟩ := h.exists_comesTo
  intro hnil
  rw [hnil, List.forall₂_nil_right_iff, Page.uploadSlots, List.map_eq_nil_iff] at hall
  exact huploads hall

theorem Makes.not_clears (h : v.Makes reviews) : ¬v.Clears := by
  obtain ⟨_, hopen⟩ := h
  intro hclears
  rw [hclears.clear] at hopen
  cases hopen

theorem run_of_valid (h : v.settings = .ok (.valid s)) (state : PageState) :
    v.run state = ((Page.visitWith s v.input state).course v.answers 0).2 := by
  obtain ⟨sources, hsources, hload⟩ := CommandLine.exists_sources_of_load h
  unfold run
  rw [hsources]
  dsimp only
  unfold Page.visit
  rw [hload]

theorem run_of_not_valid (h : ∀ s, v.settings ≠ .ok (.valid s)) (state : PageState) :
    ∃ drawn crash, v.run state = { elements := drawn, state := state, crash := crash } ∧
      ∀ e ∈ drawn, e.isOfReview = false := by
  unfold run
  cases hsources : CommandLine.settingsSources v.environment v.tree with
  | error fault => exact ⟨_, _, rfl, List.forall_mem_nil _⟩
  | ok sources =>
    dsimp only
    unfold Page.visit
    cases hload : Settings.load sources with
    | valid s =>
      refine absurd ?_ (h s)
      rw [settings, CommandLine.loadSettings, hsources, ← hload]
      rfl
    | invalid es => exact ⟨_, _, rfl, by simp [PageElement.isOfReview]⟩

theorem isOfReview_controls (s : Settings) : ∀ e ∈ Page.controls s, e.isOfReview = false := by
  simp [Page.controls, PageElement.isOfReview]

theorem isOfReview_append {drawn more : List PageElement}
    (h : ∀ e ∈ drawn, e.isOfReview = false) (hmore : ∀ e ∈ more, e.isOfReview = false) :
    ∀ e ∈ drawn ++ more, e.isOfReview = false :=
  List.forall_mem_append.2 ⟨h, hmore⟩

/-- How a visit comes to its end, and what the page keeps of it. Before the reviews nothing that is
drawn tells of one. -/
inductive Visited (v : PageVisit) (state : PageState) : PageRun → Prop
  | cleared {drawn : List PageElement} (clears : v.Clears)
      (plain : ∀ e ∈ drawn, e.isOfReview = false) :
      Visited v state { elements := drawn, state := {} }
  | made {reviews : List Review} {drawn : List PageElement} {workers : Nat} (makes : v.Makes reviews)
      (plain : ∀ e ∈ drawn, e.isOfReview = false) :
      Visited v state { Page.showState v.input drawn ⟨some reviews⟩ with workers := workers }
  | kept {drawn : List PageElement} (idle : v.Idle) (plain : ∀ e ∈ drawn, e.isOfReview = false) :
      Visited v state (Page.showState v.input drawn state)
  | stopped {drawn : List PageElement} {workers : Nat} {crash : Option Crash} (idle : v.Idle)
      (plain : ∀ e ∈ drawn, e.isOfReview = false) :
      Visited v state { elements := drawn, state := state, workers := workers, crash := crash }

theorem Makes.exists_completed (h : v.Makes reviews) (hs : v.settings = .ok (.valid s)) :
    ∃ o batch, s.configure (Page.choices s v.input) = .ok o ∧
      ((Batch.review o s.maxWorkers (Slot.sources (Page.uploadSlots v.input.uploads))).course
        v.answers 0).2.outcome = .ok batch := by
  obtain ⟨hs', _, _, _, ho, hbatch, _⟩ := h
  obtain rfl := Checked.valid.inj (Except.ok.inj (hs.symm.trans hs'))
  exact ⟨_, _, ho, hbatch⟩

theorem not_makes_of_unconfigured (hs : v.settings = .ok (.valid s)) {e : ConfigurationError}
    (he : s.configure (Page.choices s v.input) = .error e) (reviews : List Review) :
    ¬v.Makes reviews := by
  intro h
  obtain ⟨o, batch, ho, -⟩ := h.exists_completed hs
  rw [he] at ho
  cases ho

theorem not_makes_of_fault (hs : v.settings = .ok (.valid s))
    {o : ReviewOptions Request Delivery} (ho : s.configure (Page.choices s v.input) = .ok o)
    {f : Binary64.NotInteger}
    (hf : ((Batch.review o s.maxWorkers (Slot.sources (Page.uploadSlots v.input.uploads))).course
      v.answers 0).2.outcome = .error f) (reviews : List Review) : ¬v.Makes reviews := by
  intro h
  obtain ⟨o', batch, ho', hbatch⟩ := h.exists_completed hs
  obtain rfl := Except.ok.inj (ho.symm.trans ho')
  rw [hf] at hbatch
  cases hbatch

theorem visited_of_review (hs : v.settings = .ok (.valid s)) (hclear : v.input.clear = false)
    (huploads : v.input.uploads ≠ []) (hreview : v.input.review = true)
    {o : ReviewOptions Request Delivery} (ho : s.configure (Page.choices s v.input) = .ok o)
    (hopen : ¬v.Clears) (state : PageState) :
    v.Visited state
      ((Page.reviewUploads o s.maxWorkers v.input (Page.controls s) state).course
        v.answers 0).2 := by
  simp only [Page.reviewUploads, Dialogue.course_bind_done]
  split
  · next f hf =>
    exact .stopped ⟨hopen, not_makes_of_fault hs ho hf⟩
      (isOfReview_append (isOfReview_controls s) (by simp [PageElement.isOfReview]))
  · next batch hbatch =>
    exact .made ⟨hs, hclear, huploads, hreview, ho, hbatch, Batch.merged_of_course hbatch⟩
      (isOfReview_append (isOfReview_controls s) (by simp [PageElement.isOfReview]))

theorem visited_of_valid (hs : v.settings = .ok (.valid s)) (state : PageState) :
    v.Visited state (v.run state) := by
  rw [run_of_valid hs]
  unfold Page.visitWith
  dsimp only
  -- the buttons in the order in which the page asks for them
  cases hclear : v.input.clear with
  | true =>
    exact .cleared ⟨⟨s, hs⟩, hclear⟩
      (isOfReview_append (isOfReview_controls s) (by simp [PageElement.isOfReview]))
  | false =>
    have hopen : ¬v.Clears := fun h => by
      rw [h.clear] at hclear
      cases hclear
    rw [if_neg Bool.false_ne_true]
    split
    · next huploads =>
      refine .stopped ⟨hopen, fun reviews h => ?_⟩
        (isOfReview_append (isOfReview_controls s) (by simp [PageElement.isOfReview]))
      obtain ⟨_, _, hne⟩ := h
      exact hne (List.isEmpty_iff.1 huploads)
    · next huploads =>
      split
      · next hreview =>
        split
        · next he =>
          exact .stopped ⟨hopen, not_makes_of_unconfigured hs he⟩
            (isOfReview_append (isOfReview_controls s) (by simp [PageElement.isOfReview]))
        · next he =>
          exact .stopped ⟨hopen, not_makes_of_unconfigured hs he⟩ (isOfReview_controls s)
        · next o ho =>
          exact visited_of_review hs hclear (by simpa using huploads) hreview ho hopen state
      · next hreview =>
        refine .kept ⟨hopen, fun reviews h => ?_⟩ (isOfReview_controls s)
        obtain ⟨_, _, _, hclick⟩ := h
        exact hreview hclick

theorem visited (v : PageVisit) (state : PageState) : v.Visited state (v.run state) := by
  by_cases hvalid : ∃ s, v.settings = .ok (.valid s)
  · obtain ⟨s, hs⟩ := hvalid
    exact visited_of_valid hs state
  · obtain ⟨drawn, crash, hrun, hplain⟩ :=
      run_of_not_valid (fun s hs => hvalid ⟨s, hs⟩) state
    rw [hrun]
    refine .stopped ⟨fun h => hvalid h.settings, fun reviews h => ?_⟩ hplain
    obtain ⟨hs⟩ := h
    exact hvalid ⟨_, hs⟩

section

variable {state : PageState} {page : PageRun}

theorem Visited.state_of_clears (hv : v.Visited state page) (h : v.Clears) : page.state = {} := by
  cases hv with
  | cleared => rfl
  | made makes => exact absurd h makes.not_clears
  | kept idle => exact absurd h idle.1
  | stopped idle => exact absurd h idle.1

theorem Visited.state_of_makes (hv : v.Visited state page) (h : v.Makes reviews) :
    page.state = ⟨some reviews⟩ := by
  cases hv with
  | cleared clears => exact absurd clears h.not_clears
  | made makes =>
    rw [makes.unique h]
    exact Page.state_showState _ _ _
  | kept idle => exact absurd h (idle.2 reviews)
  | stopped idle => exact absurd h (idle.2 reviews)

theorem Visited.state_of_idle (hv : v.Visited state page) (h : v.Idle) : page.state = state := by
  cases hv with
  | cleared clears => exact absurd clears h.1
  | made makes => exact absurd makes (h.2 _)
  | kept => exact Page.state_showState _ _ _
  | stopped => rfl

theorem Visited.idle_of_crash (hv : v.Visited state page) (hcrash : page.crash ≠ none) :
    v.Idle := by
  cases hv with
  | cleared => exact absurd rfl hcrash
  | made makes => exact absurd (Page.crash_showState makes.not_hasLongLine _ _) hcrash
  | kept idle => exact idle
  | stopped idle => exact idle

theorem elements_showState {drawn : List PageElement} (i : PageInput) (state : PageState)
    (hplain : ∀ e ∈ drawn, e.isOfReview = false) :
    ∃ front shown,
      (Page.showState i drawn state).elements = front ++ Page.showReviews i 0 shown ∧
      (shown = [] ∨ state.reviews = some shown) ∧ ∀ e ∈ front, e.isOfReview = false := by
  rw [Page.showState]
  split
  · next r rs hstate => exact ⟨drawn, r :: rs, rfl, .inr hstate, hplain⟩
  · exact ⟨_, [], (List.append_nil _).symm, .inl rfl,
      isOfReview_append hplain (by simp [PageElement.isOfReview])⟩

theorem Visited.elements (hv : v.Visited state page) :
    ∃ front shown, page.elements = front ++ Page.showReviews v.input 0 shown ∧
      (shown = [] ∨ page.state.reviews = some shown) ∧ ∀ e ∈ front, e.isOfReview = false := by
  cases hv with
  | cleared _ plain => exact ⟨_, [], (List.append_nil _).symm, .inl rfl, plain⟩
  | made _ plain =>
    dsimp only
    rw [Page.state_showState]
    exact elements_showState _ _ plain
  | kept _ plain =>
    rw [Page.state_showState]
    exact elements_showState _ _ plain
  | stopped _ plain => exact ⟨_, [], (List.append_nil _).symm, .inl rfl, plain⟩

end

end PageVisit

def PageElement.downloaded? : PageElement → Option String
  | .download _ content _ _ => some content
  | _ => none

namespace Page

theorem downloaded?_of_plain {drawn : List PageElement}
    (h : ∀ e ∈ drawn, e.isOfReview = false) : drawn.filterMap PageElement.downloaded? = [] := by
  refine List.filterMap_eq_nil_iff.2 fun e he => ?_
  have hplain := h e he
  cases e with
  | download => cases hplain
  | _ => rfl

theorem downloaded?_showReview (i : PageInput) (number : Nat) {r : Review}
    (h : r.hasLongLine = false) :
    (showReview i number r).filterMap PageElement.downloaded? = [r.text] := by
  unfold showReview
  rw [h]
  dsimp only
  cases r.error with
  | none => cases (shownFindings i r).isEmpty <;> rfl
  | some e =>
    dsimp only
    cases e.isEmpty <;> cases (shownFindings i r).isEmpty <;> rfl

theorem downloaded?_showReviews (i : PageInput) (number : Nat) {rs : List Review}
    (h : ∀ r ∈ rs, r.hasLongLine = false) :
    (showReviews i number rs).filterMap PageElement.downloaded? = rs.map Review.text := by
  induction rs generalizing number with
  | nil => rfl
  | cons r rs ih =>
    rw [List.forall_mem_cons] at h
    rw [showReviews, h.1, if_neg Bool.false_ne_true, List.filterMap_append, ih _ h.2,
      downloaded?_showReview i number h.1, List.map_cons]
    rfl

def stateAfter (vs : List PageVisit) : PageState :=
  vs.foldl (fun state v => (v.run state).state) {}

theorem stateAfter_append (vs : List PageVisit) (v : PageVisit) :
    stateAfter (vs ++ [v]) = (v.run (stateAfter vs)).state := by
  rw [stateAfter, List.foldl_append]
  rfl

/-- These reviews were made last, and have not been cleared since. -/
def LastMade (vs : List PageVisit) (reviews : List Review) : Prop :=
  ∃ before v after, vs = before ++ v :: after ∧ v.Makes reviews ∧ ∀ w ∈ after, w.Idle

theorem lastMade_append_iff {vs : List PageVisit} {v : PageVisit} {reviews : List Review} :
    LastMade (vs ++ [v]) reviews ↔ v.Makes reviews ∨ v.Idle ∧ LastMade vs reviews := by
  constructor
  · intro ⟨before, w, after, hvs, hmakes, hidle⟩
    obtain rfl | ⟨after, last, rfl⟩ := List.eq_nil_or_concat' after
    · obtain ⟨-, hw⟩ := List.append_inj' hvs rfl
      rw [List.singleton_inj.1 hw]
      exact .inl hmakes
    · rw [← List.cons_append, ← List.append_assoc] at hvs
      obtain ⟨rfl, hlast⟩ := List.append_inj' hvs rfl
      rw [List.singleton_inj.1 hlast]
      rw [List.forall_mem_append, List.forall_mem_singleton] at hidle
      exact .inr ⟨hidle.2, before, w, after, rfl, hmakes, hidle.1⟩
  · rintro (hmakes | ⟨hidle, before, w, after, rfl, hmakes, hall⟩)
    · exact ⟨vs, v, [], rfl, hmakes, List.forall_mem_nil _⟩
    · refine ⟨before, w, after ++ [v], by simp, hmakes, ?_⟩
      rw [List.forall_mem_append, List.forall_mem_singleton]
      exact ⟨hall, hidle⟩

theorem reviews_stateAfter_iff {vs : List PageVisit} {reviews : List Review} :
    (stateAfter vs).reviews = some reviews ↔ LastMade vs reviews := by
  induction vs using List.reverseRecOn generalizing reviews with
  | nil =>
    refine ⟨nofun, ?_⟩
    intro ⟨before, v, after, hvs, _⟩
    cases before <;> cases hvs
  | append_singleton vs v ih =>
    have hv := v.visited (stateAfter vs)
    rw [stateAfter_append, lastMade_append_iff, ← ih]
    by_cases hclears : v.Clears
    · rw [hv.state_of_clears hclears]
      refine ⟨nofun, ?_⟩
      rintro (hmakes | ⟨hidle, -⟩)
      · exact absurd hclears hmakes.not_clears
      · exact absurd hclears hidle.1
    · by_cases hmade : ∃ others, v.Makes others
      · obtain ⟨others, hothers⟩ := hmade
        rw [hv.state_of_makes hothers]
        constructor
        · intro h
          rw [← Option.some.inj h]
          exact .inl hothers
        · rintro (hmakes | ⟨hidle, -⟩)
          · rw [hothers.unique hmakes]
          · exact absurd hothers (hidle.2 others)
      · have hidle : v.Idle := ⟨hclears, fun others h => hmade ⟨others, h⟩⟩
        rw [hv.state_of_idle hidle]
        exact ⟨fun h => .inr ⟨hidle, h⟩, fun h => h.elim (fun hm => absurd hm (hidle.2 _)) And.right⟩

theorem not_hasLongLine_stateAfter {vs : List PageVisit} {reviews : List Review}
    (h : (stateAfter vs).reviews = some reviews) : ∀ r ∈ reviews, r.hasLongLine = false := by
  obtain ⟨_, _, _, -, hmakes, -⟩ := reviews_stateAfter_iff.1 h
  exact hmakes.not_hasLongLine

/-- Why a visit keeps what was kept, if it does not clear it: its settings are not valid, the choices
are refused, nothing is uploaded, it crashes, or no review is asked for. -/
inductive Keeps (v : PageVisit) (state : PageState) : Prop
  | invalid (settings : ∀ s, v.settings ≠ .ok (.valid s))
  | unconfigured {s : Settings} {e : ConfigurationError} (settings : v.settings = .ok (.valid s))
      (refused : s.configure (choices s v.input) = .error e)
  | noUploads (uploads : v.input.uploads = [])
  | crashed (crash : (v.run state).crash ≠ none)
  | noReview (review : v.input.review = false)

theorem Keeps.not_makes {v : PageVisit} {state : PageState} (h : Keeps v state)
    (reviews : List Review) : ¬v.Makes reviews := by
  intro hmakes
  obtain ⟨hs, _, huploads, hreview, _⟩ := id hmakes
  cases h with
  | invalid settings => exact settings _ hs
  | unconfigured settings refused =>
    exact PageVisit.not_makes_of_unconfigured settings refused reviews hmakes
  | noUploads uploads => exact huploads uploads
  | crashed crash => exact ((v.visited state).idle_of_crash crash).2 reviews hmakes
  | noReview review =>
    rw [review] at hreview
    cases hreview

/-- What the page keeps after any visits: never a list without reviews, but those that were made
last, which are those of the uploads of that visit, if they have not been cleared since. A visit that
does not come to its buttons clears nothing. The next visit clears them, or keeps them if it makes
none; it shows and offers for download only reviews that it keeps, and these as a whole. -/
theorem kept_reviews (vs : List PageVisit) :
    (stateAfter vs).reviews ≠ some [] ∧
    (∀ reviews, (stateAfter vs).reviews = some reviews ↔ LastMade vs reviews) ∧
    (∀ v reviews, PageVisit.Makes v reviews →
      ∃ s o, v.settings = .ok (.valid s) ∧ s.configure (choices s v.input) = .ok o ∧
        List.Forall₂ (Slot.ComesTo o v.answers) (uploadSlots v.input.uploads) reviews) ∧
    ∀ v : PageVisit,
      (v.Clears → stateAfter (vs ++ [v]) = {}) ∧
      (¬v.Clears → Keeps v (stateAfter vs) → stateAfter (vs ++ [v]) = stateAfter vs) ∧
      ∃ front shown, (v.run (stateAfter vs)).elements = front ++ showReviews v.input 0 shown ∧
        (shown = [] ∨ (stateAfter (vs ++ [v])).reviews = some shown) ∧
        (∀ e ∈ front, e.isOfReview = false) ∧
        (v.run (stateAfter vs)).elements.filterMap PageElement.downloaded? =
          shown.map Review.text := by
  refine ⟨fun h => ?_, fun reviews => reviews_stateAfter_iff, fun v reviews h => h.exists_comesTo,
    fun v => ?_⟩
  · obtain ⟨before, v, after, -, hmakes, -⟩ := reviews_stateAfter_iff.1 h
    exact hmakes.ne_nil rfl
  · have hv := v.visited (stateAfter vs)
    rw [stateAfter_append]
    refine ⟨hv.state_of_clears, fun hopen hkeeps => hv.state_of_idle ⟨hopen, hkeeps.not_makes⟩, ?_⟩
    obtain ⟨front, shown, helements, hshown, hplain⟩ := hv.elements
    have hshort : ∀ r ∈ shown, r.hasLongLine = false := by
      rcases hshown with rfl | hkept
      · exact List.forall_mem_nil _
      · rw [← stateAfter_append] at hkept
        exact not_hasLongLine_stateAfter hkept
    refine ⟨front, shown, helements, hshown, hplain, ?_⟩
    rw [helements, List.filterMap_append, downloaded?_of_plain hplain,
      downloaded?_showReviews _ _ hshort, List.nil_append]

def binaryVisit : PageVisit where
  tree := CommandLine.mixedTree
  input := { uploads := [Page.binaryUpload "a.js"], review := true }

def unseenClear : PageVisit where
  environment := [("QCR_MAX_TOKENS", "x")]
  tree := CommandLine.mixedTree
  input := { uploads := [Page.binaryUpload "a.js"], clear := true }

def binaryReview : Review := .failure "a.js" "javascript" "a.js looks like a binary file"

theorem makes_binaryVisit : binaryVisit.Makes [binaryReview] := by
  have hsettings : binaryVisit.settings = .ok (.valid {}) :=
    CommandLine.loadSettings_default (by cbv)
  have hconfigured : Settings.configure {} (choices {} binaryVisit.input) = .ok {} :=
    Settings.configure_of_scoring (by decide +kernel) (by decide +kernel)
  have hslots : uploadSlots binaryVisit.input.uploads = [.done binaryReview] := by decide +kernel
  have hmerged : Slot.Merged [.done binaryReview] [] [binaryReview] := .done binaryReview .nil
  rw [← hslots] at hmerged
  have hbatch : ((Batch.review ({} : ReviewOptions Request Delivery) 4
      (Slot.sources (uploadSlots binaryVisit.input.uploads))).course
        binaryVisit.answers 0).2.outcome = .ok [] := by
    rw [hslots]
    rfl
  exact ⟨hsettings, rfl, List.cons_ne_nil _ _, rfl, hconfigured, hbatch, hmerged⟩

/-- The click does not clear the reviews that were made before. -/
theorem not_cleared_under_invalid_settings :
    unseenClear.input.clear = true ∧
    (stateAfter [binaryVisit, unseenClear]).reviews = some [binaryReview] := by
  have hload : unseenClear.settings = .ok (.invalid [⟨.unreadableInteger, ["max_tokens"]⟩]) := by
    have hfile : CommandLine.settingsFile unseenClear.tree = .ok none := by cbv
    rw [PageVisit.settings, CommandLine.loadSettings_of_file hfile]
    decide +kernel
  have hinvalid : ∀ s, unseenClear.settings ≠ .ok (.valid s) := by
    intro s hs
    rw [hload] at hs
    cases hs
  have hkeeps : Keeps unseenClear {} := .invalid hinvalid
  have hidle : unseenClear.Idle := ⟨fun h => h.settings.elim hinvalid, hkeeps.not_makes⟩
  refine ⟨rfl, reviews_stateAfter_iff.2 ⟨[], binaryVisit, [unseenClear], rfl, makes_binaryVisit, ?_⟩⟩
  exact List.forall_mem_singleton.2 hidle

end Page

end CodeReview
