import CodeReview.Proofs.CommandLine.Refusal
import CodeReview.Proofs.Review.Course

/-!
What a run shows. Whatever is answered, texts from outside are escaped in every entry but two kinds:
the one that tells where a report has been saved, and the one that refuses the name of a policy.
There a name that holds a tag is read as markup.
-/

namespace CodeReview

open Markup

namespace CommandLine

/-- The text from outside is shown in the entry as it is. -/
inductive Unescaped (e : ConsoleEntry) : String → Prop
  | report {p : Path} (entry : e = .saved p) : Unescaped e p.toString
  | policyName {name : String} (entry : e = policyRefusal name) : Unescaped e (Text.quoted name)

theorem refusal_eq (form : String) :
    styled "red" ("Unknown scoring policy " ++ form ++ ". Expected one of: flat, severity") =
      "[" ++ "red" ++ "]" ++ "Unknown scoring policy " ++ form
        ++ (". Expected one of: flat, severity" ++ ("[" ++ ("/" ++ "red") ++ "]")) := by
  simp only [OwnMarkup.styled_eq, String.append_assoc]

theorem refusal_injective {form form' : String}
    (h : styled "red" ("Unknown scoring policy " ++ form ++ ". Expected one of: flat, severity") =
      styled "red" ("Unknown scoring policy " ++ form' ++ ". Expected one of: flat, severity")) :
    form = form' := by
  simpa only [styled, String.append_left_inj, String.append_right_inj] using h

theorem saved_ne_styled_red (a b : String) :
    styled "dim" "Saved:" ++ " " ++ a ≠ styled "red" b := by
  intro h
  have hchar := congrArg (fun m => m.toList[1]?) h
  simp [styled] at hchar

theorem Unescaped.unique {e : ConsoleEntry} {text text' : String} (h : Unescaped e text)
    (h' : Unescaped e text') : text = text' := by
  cases h with
  | report entry =>
    cases h' with
    | report entry' =>
      exact (String.append_right_inj _).1 (ConsoleEntry.line.inj (entry.symm.trans entry'))
    | policyName entry' =>
      exact absurd (ConsoleEntry.line.inj (entry.symm.trans entry')) (saved_ne_styled_red _ _)
  | policyName entry =>
    cases h' with
    | report entry' =>
      exact absurd (ConsoleEntry.line.inj (entry'.symm.trans entry)) (saved_ne_styled_red _ _)
    | policyName entry' =>
      exact refusal_injective (ConsoleEntry.line.inj (entry.symm.trans entry'))

def printedRefusal (text form : String) : Printed where
  before := "[" ++ "red" ++ "]" ++ "Unknown scoring policy "
  text := text
  form := form
  after := ". Expected one of: flat, severity" ++ ("[" ++ ("/" ++ "red") ++ "]")
  own_before := (OwnPart.opening (by decide)).append (.word (by decide +kernel))
  own_after := (OwnPart.word (by decide +kernel)).append (.closing (by decide))
  balanced := by
    have hred : "red" ∈ ownStyles := by decide
    have hbefore : Plain "Unknown scoring policy " := plain_of_mem_ownWords _ (by decide +kernel)
    have hafter : Plain ". Expected one of: flat, severity" :=
      plain_of_mem_ownWords _ (by decide +kernel)
    rw [(OwnPart.opening hred).closed, hafter.closed, tags_opening hred, tags_closing hred,
      hbefore.tags_eq_nil, hafter.tags_eq_nil]
    exact .styled hred .nil .nil
  apart := by
    have hhead : (". Expected one of: flat, severity" ++
        ("[" ++ ("/" ++ "red") ++ "]")).toList.head? = some '.' := by
      rw [String.toList_append]
      rfl
    have hbracket : bracket? (". Expected one of: flat, severity" ++
        ("[" ++ ("/" ++ "red") ++ "]")).toList = some '[' := by
      rw [String.toList_append, bracket?_append]
      rfl
    refine ⟨fun c hc => ?_, hbracket.trans_ne (by decide)⟩
    obtain rfl := Option.some.inj (hhead.symm.trans hc)
    decide

/-- An entry is made of such parts. Where a text is not escaped, this shows in the tags exactly if
it holds one. -/
structure Shows (e : ConsoleEntry) (xs : List Printed) : Prop where
  markups : e.markups = xs.map Printed.markup
  forms : ∀ x ∈ xs, x.Escaped ∨ x.form = x.text ∧ Unescaped e x.text
  escaped_iff : (∀ x ∈ xs, x.Escaped) ↔ ∀ text, Unescaped e text → escape text = text
  ownTagged_iff : (∀ x ∈ xs, x.OwnTagged) ↔ ∀ text, Unescaped e text → tags text = []

theorem shows_unescaped {e : ConsoleEntry} {x : Printed} (hmarkup : e.markups = [x.markup])
    (hform : x.form = x.text) (h : Unescaped e x.text) : Shows e [x] where
  markups := hmarkup
  forms := List.forall_mem_singleton.2 (.inr ⟨hform, h⟩)
  escaped_iff := by
    rw [List.forall_mem_singleton, Printed.Escaped, hform]
    exact ⟨fun hx text ht => by rw [ht.unique h, ← hx], fun hall => (hall _ h).symm⟩
  ownTagged_iff := by
    rw [List.forall_mem_singleton, Printed.ownTagged_iff, hform]
    exact ⟨fun hx text ht => by rw [ht.unique h, hx], fun hall => hall _ h⟩

theorem shows_saved (p : Path) : ∃ xs, Shows (.saved p) xs := by
  have hlabel : OwnMarkup (styled "dim" "Saved:" ++ " ") := .label (by decide) (by decide +kernel)
  refine ⟨_, shows_unescaped (x := .behind hlabel p.toString p.toString) ?_ rfl (.report rfl)⟩
  rw [Printed.markup_behind]
  rfl

theorem shows_policyRefusal (name : String) : ∃ xs, Shows (policyRefusal name) xs := by
  have hmarkup : (policyRefusal name).markups =
      [(printedRefusal (Text.quoted name) (Text.quoted name)).markup] :=
    congrArg (fun m => [m]) (refusal_eq (Text.quoted name))
  exact ⟨_, shows_unescaped hmarkup rfl (.policyName rfl)⟩

theorem shows_escaped {e : ConsoleEntry} (h : e.Escaped) (hnone : ∀ text, ¬Unescaped e text) :
    ∃ xs, Shows e xs := by
  obtain ⟨xs, hxs, hescaped⟩ := exists_printed h
  have hall : ∀ {P : String → Prop}, ∀ text, Unescaped e text → P text :=
    fun text ht => absurd ht (hnone text)
  exact ⟨xs, hxs, fun x hx => .inl (hescaped x hx), iff_of_true hescaped hall,
    iff_of_true (fun x hx => (hescaped x hx).ownTagged) hall⟩

/-- Where the texts of an entry come from that are not escaped: it tells of a report on one of the
reviews, or it refuses the name of the policy that is asked for. -/
inductive Told (environment : List (String × String)) (args : List String) (clock : Nat → String)
    (t : FileTree) (rs : List Review) : ConsoleEntry → Prop
  | escaped {e : ConsoleEntry} (escaped : e.Escaped) : Told environment args clock t rs e
  | report {s : Settings} {a : Arguments} {r : Review} (given : Given environment args t s a)
      (save : a.save = true) (review : r ∈ rs) (root : Option Path) (i n : Nat) :
      Told environment args clock t rs
        (.saved (reportPath (Path.ofString a.out) root (clock i) r.filename n))
  | policyName {s : Settings} {a : Arguments} (given : Given environment args t s a)
      (unknown : PolicyKind.ofName? (s.policyName a.policy) = none) :
      Told environment args clock t rs (policyRefusal (s.policyName a.policy))

def OfReview (save : Option (Path × Option Path)) (clock : Nat → String) (r : Review)
    (e : ConsoleEntry) : Prop :=
  e ∈ ConsoleEntry.heading r ++ ConsoleEntry.details r ∨ ∃ directory root i n,
    save = some (directory, root) ∧ e = .saved (reportPath directory root (clock i) r.filename n)

section

variable {host : Host} {environment : List (String × String)} {args : List String}
  {clock : Nat → String} {t : FileTree} {l : Logger} {e : ConsoleEntry} {rs : List Review}
  {save : Option (Path × Option Path)}

theorem ofReview_of_mem_keep {k : Nat} {r : Review}
    (h : e ∈ (keep host save (clock k) r t).console) : OfReview save clock r e := by
  cases save with
  | none => cases h
  | some place =>
    obtain ⟨directory, root⟩ := place
    rw [keep] at h
    cases hsave : Report.save t directory (clock k) root r with
    | error f =>
      rw [hsave] at h
      cases h
    | ok saved =>
      obtain ⟨n, hn⟩ := Report.chosen_save t directory (clock k) root r
      rw [hsave] at h hn
      have hentry := List.mem_singleton.1 (mem_of_mem_print h)
      have hpath : saved.1 = reportPath directory root (clock k) r.filename n := hn
      exact .inr ⟨directory, root, k, n, rfl, by rw [hentry, ← hpath]⟩

theorem ofReview_of_mem_present {k : Nat} (h : e ∈ (present host save clock k rs t).console) :
    ∃ r ∈ rs, OfReview save clock r e := by
  induction rs generalizing k t with
  | nil => cases h
  | cons r rs ih =>
    rcases Progress.mem_console_andThen h with hone | hmore
    · refine ⟨r, List.mem_cons_self, ?_⟩
      rcases Progress.mem_console_andThen hone with hshown | hkept
      · exact .inl (mem_of_mem_render hshown)
      · exact ofReview_of_mem_keep hkept
    · obtain ⟨r', hr', hof⟩ := ih hmore
      exact ⟨r', List.mem_cons_of_mem r hr', hof⟩

theorem ofReview_of_mem_deliver {a : Arguments} (h : e ∈ (deliver host a clock rs t).console) :
    e = ConsoleEntry.summary rs ∨ ∃ t', ∃ r ∈ rs, OfReview (reports a t') clock r e := by
  rcases Progress.mem_console_andThen h with hpart | hsummary
  · rcases Progress.mem_console_andThen hpart with hmade | hpresent
    · rw [makeOut] at hmade
      split at hmade <;> cases hmade
    · exact .inr ⟨_, ofReview_of_mem_present hpresent⟩
  · have hentry := mem_of_mem_print hsummary
    split at hentry
    · exact .inl (List.mem_singleton.1 hentry)
    · cases hentry

theorem told_deliver {s : Settings} {a : Arguments} (hgiven : Given environment args t s a)
    (hrs : ∀ r ∈ rs, r.Worded) (h : e ∈ (deliver host a clock rs t).console) :
    Told environment args clock t rs e := by
  rcases ofReview_of_mem_deliver h with rfl | ⟨t', r, hr, hshown | hof⟩
  · exact .escaped (ConsoleEntry.escaped_summary rs)
  · rcases List.mem_append.1 hshown with hheading | hdetails
    · exact .escaped (ConsoleEntry.escaped_heading (hrs r hr) e hheading)
    · exact .escaped (ConsoleEntry.escaped_details (hrs r hr) e hdetails)
  · obtain ⟨directory, root, i, n, hplace, rfl⟩ := hof
    rw [reports, Option.ite_none_right_eq_some] at hplace
    obtain ⟨hsave, hplace⟩ := hplace
    cases hplace
    exact .report hgiven hsave hr _ i n

theorem told_reviewFiles {a : Arguments} {o : ReviewOptions Request Delivery} {files : List Path}
    (h : Reaches environment args t l a o files) (l' : Logger) (answers : Nat → Delivery) :
    ∀ e ∈ ((reviewFiles host o a clock t l' files).course answers 0).2.console,
      Told environment args clock t
        ((reviewFiles host o a clock t l' files).course answers 0).2.reviews e := by
  obtain ⟨s, hload, hread, -⟩ := h.configured
  obtain ⟨ss, hss, hslots⟩ := h.exists_slots
  simp only [reviewFiles, hss, Dialogue.course_bind_done]
  cases hbatch : ((Batch.review o a.workers (Slot.sources ss)).course answers 0).2.outcome with
  | error fault => exact List.forall_mem_nil _
  | ok batch =>
    have hall := (Batch.merged_of_course hbatch).comesTo (Batch.course_review hbatch)
    have hmakes := hall.imp fun _ _ => Slot.ComesTo.makes
    refine fun e he => told_deliver ⟨hload, hread⟩ (fun r hr => ?_) he
    obtain ⟨path, -, bytes, -, hmade⟩ := Slot.exists_makes_of_forall₂ hslots hmakes r hr
    exact hmade.worded

end

variable {environment : List (String × String)} {args : List String} {clock : Nat → String}
  {t : FileTree}

theorem Told.exists_shows {rs : List Review} {e : ConsoleEntry}
    (h : Told environment args clock t rs e) : ∃ xs, Shows e xs := by
  cases h with
  | report given save review root n => exact shows_saved _
  | policyName given unknown => exact shows_policyRefusal _
  | escaped escaped =>
    by_cases hun : ∃ text, Unescaped e text
    · obtain ⟨text, htext⟩ := hun
      cases htext with
      | report entry =>
        rw [entry]
        exact shows_saved _
      | policyName entry =>
        rw [entry]
        exact shows_policyRefusal _
    · exact shows_escaped escaped (not_exists.1 hun)

theorem exists_script {rs : List Review} {console : List ConsoleEntry}
    (h : ∀ e ∈ console, Told environment args clock t rs e) :
    ∃ script, List.Forall₂ Shows console script := by
  induction console with
  | nil => exact ⟨[], .nil⟩
  | cons e es ih =>
    rw [List.forall_mem_cons] at h
    obtain ⟨xs, hxs⟩ := h.1.exists_shows
    obtain ⟨script, hscript⟩ := ih h.2
    exact ⟨xs :: script, .cons hxs hscript⟩

theorem forall_script_iff {console : List ConsoleEntry} {script : List (List Printed)}
    (h : List.Forall₂ Shows console script) {P : Printed → Prop} {Q : String → Prop}
    (hone : ∀ e xs, Shows e xs → ((∀ x ∈ xs, P x) ↔ ∀ text, Unescaped e text → Q text)) :
    (∀ xs ∈ script, ∀ x ∈ xs, P x) ↔ ∀ e ∈ console, ∀ text, Unescaped e text → Q text := by
  induction h with
  | nil => simp
  | cons hxs _ ih => rw [List.forall_mem_cons, List.forall_mem_cons, hone _ _ hxs, ih]

/-- Whatever a run shows is markup of the program's own around texts from outside, and these are
escaped but for the paths of saved reports and a name that is no policy's. So all are escaped
exactly where escaping would not change these, and no tag is read in a text from outside exactly
where none of these holds one. -/
theorem escapes_iff_of_run (host : Host) (environment : List (String × String))
    (args : List String) (clock : Nat → String) (t : FileTree) (l : Logger)
    (answers : Nat → Delivery) :
    ∃ asked done script, (run host environment args clock t l).course answers 0 = (asked, done) ∧
      (∀ e ∈ done.console, Told environment args clock t done.reviews e) ∧
      List.Forall₂ Shows done.console script ∧
      ((∀ xs ∈ script, ∀ x ∈ xs, x.Escaped) ↔
        ∀ e ∈ done.console, ∀ text, Unescaped e text → escape text = text) ∧
      ((∀ xs ∈ script, ∀ x ∈ xs, x.OwnTagged) ↔
        ∀ e ∈ done.console, ∀ text, Unescaped e text → tags text = []) := by
  have htold : ∀ e ∈ ((run host environment args clock t l).course answers 0).2.console,
      Told environment args clock t
        ((run host environment args clock t l).course answers 0).2.reviews e := by
    rcases run_cases host environment args clock t l with
      ⟨done, hstops, hrun⟩ | ⟨a, o, files, l', hreaches, hrun⟩
    · rw [hrun]
      intro e he
      rcases hstops.told e he with hescaped | ⟨s, a, hgiven, hname, rfl⟩
      · exact .escaped hescaped
      · exact .policyName hgiven hname
    · rw [hrun]
      exact told_reviewFiles hreaches l' answers
  obtain ⟨script, hscript⟩ := exists_script htold
  exact ⟨_, _, script, rfl, htold, hscript,
    forall_script_iff hscript fun _ _ h => h.escaped_iff,
    forall_script_iff hscript fun _ _ h => h.ownTagged_iff⟩

theorem saved_mem_deliver {host : Host} {a : Arguments} {made t' : FileTree} {r : Review} {p : Path}
    {root : Option Path} (clock : Nat → String) (hmade : makeOut a t = { tree := made })
    (hreports : reports a made = some (Path.ofString a.out, root)) (hshown : Shown host r)
    (hp : Report.save made (Path.ofString a.out) (clock 0) root r = .ok (p, t'))
    (rs : List Review) : .saved p ∈ (deliver host a clock (r :: rs) t).console := by
  refine Progress.mem_console_andThen_of_mem ?_
  rw [hmade]
  refine Progress.mem_console_andThen_of_next rfl (Progress.mem_console_andThen_of_mem ?_)
  refine Progress.mem_console_andThen_of_next (crash_render_eq_none_iff.2 hshown) ?_
  rw [tree_render, hreports, keep_of_save hp]
  exact mem_print_singleton _ _ _

def taggedTree : FileTree where
  entries := [(["[id].js"], .file [])]
  nodup := by decide

def taggedReview : Review where
  filename := "[id].js"
  language := "javascript"
  score := Score.clamp 100
  issues := []
  suggestions := []
  summary := Summary.excellent.text

def taggedReport : Path :=
  (Path.ofString "reports").join ["[id]_js_20240102_030405.json"]

theorem save_taggedReview {root : Path} (hroot : Report.stem "[id].js" (some root) = "[id]_js") :
    ∃ t', Report.save (taggedTree.ensureDirectory (Path.ofString "reports")).1
      (Path.ofString "reports") "20240102_030405" (some root) taggedReview =
        .ok (taggedReport, t') := by
  have hfind : (taggedTree.ensureDirectory (Path.ofString "reports")).1.find taggedReport =
      .ok (.free ["reports", "[id]_js_20240102_030405.json"]) := by cbv
  have hname : Report.fileName "[id]_js" "20240102_030405" 1 = "[id]_js_20240102_030405.json" := by
    decide +kernel
  generalize (taggedTree.ensureDirectory (Path.ofString "reports")).1 = made at hfind
  have hfirst : Report.firstFree made (Path.ofString "reports") "[id]_js" "20240102_030405"
      (made.entries.length + 1) 1 = taggedReport := by
    rw [Report.firstFree, hname, if_neg]
    · rfl
    · rw [FileTree.exists_, ← taggedReport, hfind]
      decide
  rw [Report.save_of_short (by rfl)]
  simp only [taggedReview, hroot, hfirst, FileTree.write, hfind]
  exact ⟨_, rfl⟩

theorem reaches_taggedTree :
    ∃ a : Arguments, Reaches [] ["[id].js"] taggedTree {} a {} [Path.ofString "[id].js"] ∧
      a.save = true ∧ a.out = "reports" ∧ a.target = "[id].js" := by
  have hload : loadSettings [] taggedTree = .ok (.valid {}) := loadSettings_default (by cbv)
  have hargs : Argument.classifyAll ["[id].js"] = .ok [.plain "[id].js"] := by decide +kernel
  have hwords : CommandWords.read {} false [.plain "[id].js"] =
      .ok { target := some "[id].js", options := [] } := by cbv
  have hscan : taggedTree.scan (Path.ofString "[id].js") true = [Path.ofString "[id].js"] := by cbv
  have hreaches : Reaches [] ["[id].js"] taggedTree {} _ {} [Path.ofString "[id].js"] :=
    { configured := ⟨{}, hload, Arguments.read_of_words hargs hwords rfl rfl {},
        Settings.configure_of_scoring (by decide +kernel) (by decide +kernel)⟩
      logged := by decide +kernel
      scanned := hscan
      found := by simp
      few := by decide +kernel }
  exact ⟨_, hreaches, rfl, rfl, rfl⟩

theorem shown_taggedReview : Shown quietHost taggedReview where
  short := by rfl
  heading := by decide +kernel
  details := by decide +kernel

theorem batch_taggedTree (wanted : Int) :
    ((Batch.review ({} : ReviewOptions Request Delivery) wanted
      (Slot.sources [.source ⟨"[id].js", ""⟩])).course (fun _ => Delivery.timedOut) 0).2.outcome =
        .ok [taggedReview] := by
  have hone : ((Batch.review ({} : ReviewOptions Request Delivery) 1
      (Slot.sources [.source ⟨"[id].js", ""⟩])).course (fun _ => Delivery.timedOut) 0).2.outcome =
        .ok [taggedReview] := by
    decide +kernel
  rw [Batch.review, Dialogue.course_bind_done] at hone ⊢
  exact hone

theorem markups_taggedReport : (ConsoleEntry.saved taggedReport).markups =
    [styled "dim" "Saved:" ++ " " ++ "reports/[id]_js_20240102_030405.json"] := by
  have htext : taggedReport.toString = "reports/[id]_js_20240102_030405.json" := by decide +kernel
  rw [← htext]
  rfl

theorem tags_taggedReport :
    tags (styled "dim" "Saved:" ++ " " ++ "reports/[id]_js_20240102_030405.json") =
      ["dim", "/dim", "id"] := by
  cbv

/-- The file is reviewed and its report is saved, and the entry that tells of it has a tag that is
not the program's own. -/
theorem report_path_read_as_tag :
    ∃ e ∈ ((run quietHost [] ["[id].js"] (fun _ => "20240102_030405") taggedTree {}).course
        (fun _ => .timedOut) 0).2.console,
      e = .saved (Path.ofString "reports/[id]_js_20240102_030405.json") ∧
      e.markups.map tags = [["dim", "/dim", "id"]] ∧ ¬e.Escaped := by
  obtain ⟨a, hreaches, hsave, hout, htarget⟩ := reaches_taggedTree
  obtain ⟨l', hrun⟩ := hreaches.run_eq quietHost fun _ => "20240102_030405"
  have hslots : slots taggedTree [Path.ofString "[id].js"] = .ok [.source ⟨"[id].js", ""⟩] := by cbv
  have hmade : makeOut a taggedTree = { tree := outTree a taggedTree } := by
    have hnone : (taggedTree.ensureDirectory (Path.ofString a.out)).2 = none := by
      rw [hout]
      cbv
    rw [makeOut_of_save hsave, hnone]
    rfl
  have hroot : Report.stem "[id].js" (some (reportRoot
      (taggedTree.ensureDirectory (Path.ofString "reports")).1 (Path.ofString "[id].js"))) =
        "[id]_js" := by
    have hparent : reportRoot (taggedTree.ensureDirectory (Path.ofString "reports")).1
        (Path.ofString "[id].js") = Path.ofString "" := by cbv
    rw [hparent]
    cbv
  obtain ⟨t', hsaved⟩ := save_taggedReview hroot
  have hreport : Report.save (outTree a taggedTree) (Path.ofString a.out) "20240102_030405"
      (outRoot a taggedTree) taggedReview = .ok (taggedReport, t') := by
    rw [outRoot, outTree, hout, htarget]
    exact hsaved
  have hpath : taggedReport = Path.ofString "reports/[id]_js_20240102_030405.json" := by
    decide +kernel
  refine ⟨.saved taggedReport, ?_, by rw [hpath], ?_, ?_⟩
  · have hfill : Slot.fill [.source ⟨"[id].js", ""⟩] [taggedReview] = [taggedReview] := rfl
    rw [hrun]
    simp only [reviewFiles, hslots, Dialogue.course_bind_done, batch_taggedTree, hfill, finish]
    exact saved_mem_deliver (fun _ => "20240102_030405") hmade (reports_of_save hsave _)
      shown_taggedReview hreport []
  · rw [markups_taggedReport, List.map_singleton, tags_taggedReport]
  · intro hescaped
    have hmarkup := hescaped _ (by
      rw [markups_taggedReport]
      exact List.mem_singleton_self _)
    have hown := hmarkup.balanced.mem_ownTags "id" (by
      rw [tags_taggedReport]
      decide)
    exact absurd hown (by decide +kernel)

end CommandLine

end CodeReview
