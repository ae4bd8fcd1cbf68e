import CodeReview.CommandLine
import CodeReview.Proofs.Console.Markup
import CodeReview.Proofs.Report.Name

/-!
What is printed, in its parts: markup of the program's own, and between it a text from outside. No
tag is read in such a text if it is escaped, and the ones that are read then are the program's own.
-/

namespace CodeReview

open Markup

/-- The words that are printed around names, numbers and texts from outside. -/
def ownWords : List String :=
  ["\n", " ", "   ", "-", "/100", "File:", "Language:", "Score:", "Summary:", "Saved:",
    " issues • ", " suggestions", "issue", "suggestion", "unknown", "review-failed", "ai-review",
    "Findings", "Kind", "Severity", "Line", "Rule", "Message",
    "Review summary", "File", "Score", "Issues", "Suggestions",
    "Invalid QCR_* setting:", "Unknown scoring policy ", ". Expected one of: flat, severity",
    Client.missingKeyMessage, "No reviewable files found.",
    "Too many files (", "). Use --max-files or point to a smaller folder."]

def ownStyles : List String :=
  ["bold", "dim", "green", "blue", "yellow", "red"]

def ownTags : List String :=
  ownStyles ++ ownStyles.map ("/" ++ ·)

theorem plain_of_mem_ownWords : ∀ w ∈ ownWords, Plain w := by
  simp only [ownWords, List.forall_mem_cons]
  and_intros
  all_goals first
    | exact plain_ofList (by decide)
    | exact List.forall_mem_nil _

theorem isTagName_of_mem_ownTags : ∀ s ∈ ownTags, IsTagName s := by
  unfold IsTagName
  decide +kernel

theorem plain_languageName (l : Language) : Plain l.name := by
  cases l <;> exact plain_ofList (by decide)

theorem plain_severityName (s : Severity) : Plain s.name := by
  cases s <;> exact plain_ofList (by decide)

theorem plain_ruleId (r : Rule) : Plain r.id := by
  cases r <;> exact plain_ofList (by decide)

theorem plain_summaryText (s : Summary) : Plain s.text := by
  cases s <;> exact plain_ofList (by decide)

theorem plain_toString (n : Nat) : Plain (toString n) := by
  intro c hc
  constructor
  · rintro rfl
    exact Report.notMem_toString (by decide) n hc
  · rintro rfl
    exact Report.notMem_toString (by decide) n hc

/-- A part of markup that is put together from the program's own words, names and tags, and from
numbers. -/
inductive OwnPart : String → Prop
  | empty : OwnPart ""
  | word {w : String} (h : w ∈ ownWords) : OwnPart w
  | language (l : Language) : OwnPart l.name
  | severity (s : Severity) : OwnPart s.name
  | rule (r : Rule) : OwnPart r.id
  | summary (s : Summary) : OwnPart s.text
  | number (n : Nat) : OwnPart (toString n)
  | tag {s : String} (h : s ∈ ownTags) : OwnPart ("[" ++ s ++ "]")
  | append {m m' : String} (h : OwnPart m) (h' : OwnPart m') : OwnPart (m ++ m')

namespace OwnPart

theorem closed {m : String} (h : OwnPart m) : Closed m := by
  induction h with
  | empty => exact Plain.closed nofun
  | word h => exact (plain_of_mem_ownWords _ h).closed
  | language l => exact (plain_languageName l).closed
  | severity s => exact (plain_severityName s).closed
  | rule r => exact (plain_ruleId r).closed
  | summary s => exact (plain_summaryText s).closed
  | number n => exact (plain_toString n).closed
  | tag h => exact (isTagName_of_mem_ownTags _ h).closed
  | append _ _ ih ih' => exact ih.append ih'

theorem opening {s : String} (h : s ∈ ownStyles) : OwnPart ("[" ++ s ++ "]") :=
  .tag (List.mem_append_left _ h)

theorem closing {s : String} (h : s ∈ ownStyles) : OwnPart ("[" ++ ("/" ++ s) ++ "]") :=
  .tag (List.mem_append_right _ (List.mem_map_of_mem h))

end OwnPart

theorem tags_opening {s : String} (h : s ∈ ownStyles) : tags ("[" ++ s ++ "]") = [s] :=
  (isTagName_of_mem_ownTags _ (List.mem_append_left _ h)).tags_eq

theorem tags_closing {s : String} (h : s ∈ ownStyles) :
    tags ("[" ++ ("/" ++ s) ++ "]") = ["/" ++ s] :=
  (isTagName_of_mem_ownTags _ (List.mem_append_right _ (List.mem_map_of_mem h))).tags_eq

/-- Tags of the program's own, each of which is closed behind being opened. -/
inductive Balanced : List String → Prop
  | nil : Balanced []
  | styled {s : String} {ts us : List String} (own : s ∈ ownStyles) (inner : Balanced ts)
      (rest : Balanced us) : Balanced (s :: (ts ++ ("/" ++ s) :: us))

namespace Balanced

variable {ts us : List String}

theorem append (h : Balanced ts) (h' : Balanced us) : Balanced (ts ++ us) := by
  induction h with
  | nil => exact h'
  | styled own inner _ _ ih =>
    rw [List.cons_append, List.append_assoc, List.cons_append]
    exact .styled own inner ih

theorem mem_ownTags (h : Balanced ts) : ∀ s ∈ ts, s ∈ ownTags := by
  induction h with
  | nil => exact List.forall_mem_nil _
  | styled own _ _ ih ih' =>
    rw [List.forall_mem_cons, List.forall_mem_append, List.forall_mem_cons]
    exact ⟨List.mem_append_left _ own, ih,
      List.mem_append_right _ (List.mem_map_of_mem own), ih'⟩

end Balanced

/-- Markup of the program's own, with each of its tags closed. -/
structure OwnMarkup (m : String) : Prop where
  part : OwnPart m
  balanced : Balanced (tags m)

namespace OwnMarkup

variable {m m' : String}

theorem of_plain (h : OwnPart m) (hplain : Plain m) : OwnMarkup m where
  part := h
  balanced := by
    rw [hplain.tags_eq_nil]
    exact .nil

theorem empty : OwnMarkup "" := of_plain .empty nofun

theorem word {w : String} (h : w ∈ ownWords) : OwnMarkup w :=
  of_plain (.word h) (plain_of_mem_ownWords _ h)

theorem language (l : Language) : OwnMarkup l.name := of_plain (.language l) (plain_languageName l)

theorem severity (s : Severity) : OwnMarkup s.name := of_plain (.severity s) (plain_severityName s)

theorem rule (r : Rule) : OwnMarkup r.id := of_plain (.rule r) (plain_ruleId r)

theorem summary (s : Summary) : OwnMarkup s.text := of_plain (.summary s) (plain_summaryText s)

theorem number (n : Nat) : OwnMarkup (toString n) := of_plain (.number n) (plain_toString n)

theorem append (h : OwnMarkup m) (h' : OwnMarkup m') : OwnMarkup (m ++ m') where
  part := h.part.append h'.part
  balanced := by
    rw [h.part.closed]
    exact h.balanced.append h'.balanced

theorem styled_eq (s m : String) :
    Markup.styled s m = "[" ++ s ++ "]" ++ m ++ ("[" ++ ("/" ++ s) ++ "]") := by
  have hslash : "[/" = "[" ++ "/" := by decide
  simp only [Markup.styled, hslash, String.append_assoc]

theorem styled {s : String} (hs : s ∈ ownStyles) (h : OwnMarkup m) :
    OwnMarkup (Markup.styled s m) := by
  have hopened := (OwnPart.opening hs).append h.part
  rw [styled_eq]
  refine ⟨hopened.append (.closing hs), ?_⟩
  rw [hopened.closed, (OwnPart.opening hs).closed, tags_opening hs, tags_closing hs]
  exact .styled hs h.balanced .nil

theorem label {s w : String} (hs : s ∈ ownStyles) (hw : w ∈ ownWords) :
    OwnMarkup (Markup.styled s w ++ " ") :=
  (styled hs (.word hw)).append (.word (by decide +kernel))

theorem languageFor (path : String) : OwnMarkup (Language.nameFor path) := by
  unfold Language.nameFor
  split
  · exact .language _
  · exact .word (by decide +kernel)

end OwnMarkup

/-- Printed markup in its parts: a text from outside in some form, between markup of the program's
own. -/
structure Printed where
  before : String
  text : String
  form : String
  after : String
  own_before : OwnPart before
  own_after : OwnPart after
  balanced : Balanced (tags before ++ tags after)
  apart : Apart after.toList

namespace Printed

def markup (x : Printed) : String :=
  x.before ++ x.form ++ x.after

/-- The text from outside stands in its escaped form. -/
def Escaped (x : Printed) : Prop :=
  x.form = escape x.text

theorem tags_markup (x : Printed) :
    tags x.markup = tags x.before ++ tags x.form ++ tags x.after := by
  rw [markup, tags_append x.apart, x.own_before.closed]

/-- No tag is read in the text from outside, so that the tags are those of the program. -/
def OwnTagged (x : Printed) : Prop :=
  tags x.markup = tags x.before ++ tags x.after

theorem ownTagged_iff {x : Printed} : x.OwnTagged ↔ tags x.form = [] := by
  rw [OwnTagged, tags_markup, List.append_left_inj, List.append_right_eq_self]

theorem Escaped.ownTagged {x : Printed} (h : x.Escaped) : x.OwnTagged := by
  rw [ownTagged_iff, h, tags_escape]

def behind {m : String} (h : OwnMarkup m) (text form : String) : Printed where
  before := m
  text := text
  form := form
  after := ""
  own_before := h.part
  own_after := .empty
  balanced := by
    rw [tags_empty, List.append_nil]
    exact h.balanced
  apart := ⟨nofun, nofun⟩

theorem markup_behind {m : String} (h : OwnMarkup m) (text form : String) :
    (behind h text form).markup = m ++ form :=
  String.append_empty

end Printed

def EscapedMarkup (m : String) : Prop :=
  ∃ x : Printed, x.Escaped ∧ x.markup = m

theorem EscapedMarkup.balanced {m : String} (h : EscapedMarkup m) : Balanced (tags m) := by
  obtain ⟨x, hx, rfl⟩ := h
  rw [hx.ownTagged]
  exact x.balanced

theorem OwnMarkup.escaped_behind {m : String} (h : OwnMarkup m) (text : String) :
    EscapedMarkup (m ++ escape text) :=
  ⟨.behind h text (escape text), rfl, Printed.markup_behind h _ _⟩

theorem OwnMarkup.escaped {m : String} (h : OwnMarkup m) : EscapedMarkup m := by
  have hempty : escape "" = "" := rfl
  have hbehind := h.escaped_behind ""
  rwa [hempty, String.append_empty] at hbehind

theorem escapedMarkup_escape (text : String) : EscapedMarkup (escape text) := by
  have hbehind := OwnMarkup.empty.escaped_behind text
  rwa [String.empty_append] at hbehind

theorem exists_printed {ms : List String} (h : ∀ m ∈ ms, EscapedMarkup m) :
    ∃ xs : List Printed, ms = xs.map Printed.markup ∧ ∀ x ∈ xs, x.Escaped := by
  induction ms with
  | nil => exact ⟨[], rfl, List.forall_mem_nil _⟩
  | cons m ms ih =>
    rw [List.forall_mem_cons] at h
    obtain ⟨x, hx, rfl⟩ := h.1
    obtain ⟨xs, rfl, hxs⟩ := ih h.2
    exact ⟨x :: xs, rfl, List.forall_mem_cons.2 ⟨hx, hxs⟩⟩

/-- What a review says in the program's own words: the language, the summary and the rules. -/
structure Review.Worded (r : Review) : Prop where
  language : OwnMarkup r.language
  summary : OwnMarkup r.summary
  rules : ∀ f ∈ r.issues ++ r.suggestions, OwnMarkup f.rule

theorem Band.style_mem_ownStyles (b : Band) : b.style ∈ ownStyles := by
  cases b <;> decide

namespace ConsoleEntry

def Escaped (e : ConsoleEntry) : Prop :=
  ∀ m ∈ e.markups, EscapedMarkup m

theorem escaped_line {m : String} (h : EscapedMarkup m) : (ConsoleEntry.line m).Escaped :=
  List.forall_mem_singleton.2 h

theorem escaped_table {title : String} {columns : List String} {rows : List (List String)}
    (htitle : title ∈ ownWords) (hcolumns : ∀ c ∈ columns, c ∈ ownWords)
    (hrows : ∀ row ∈ rows, ∀ m ∈ row, EscapedMarkup m) :
    (ConsoleEntry.table title columns rows).Escaped := by
  rw [Escaped, markups, List.forall_mem_cons, List.forall_mem_append, List.forall_mem_flatten]
  exact ⟨(OwnMarkup.word htitle).escaped, fun c hc => (OwnMarkup.word (hcolumns c hc)).escaped,
    hrows⟩

theorem escaped_findingRow {kind : String} (hkind : kind ∈ ownWords) {f : Finding}
    (hrule : OwnMarkup f.rule) : ∀ m ∈ findingRow kind f, EscapedMarkup m := by
  have hdash : OwnMarkup "-" := .word (by decide +kernel)
  simp only [findingRow, List.forall_mem_cons]
  refine ⟨(OwnMarkup.word hkind).escaped, (OwnMarkup.severity _).escaped, ?_, hrule.escaped,
    escapedMarkup_escape _, List.forall_mem_nil _⟩
  cases f.line with
  | none => exact hdash.escaped
  | some n => exact (OwnMarkup.number n.val).escaped

theorem escaped_findings {r : Review} (h : r.Worded) : (findings r).Escaped := by
  refine escaped_table (by decide +kernel) (by decide +kernel) ?_
  rw [List.forall_mem_append, List.forall_mem_map, List.forall_mem_map]
  constructor
  · exact fun f hf => escaped_findingRow (by decide +kernel) (h.rules f (List.mem_append_left _ hf))
  · exact fun f hf => escaped_findingRow (by decide +kernel) (h.rules f (List.mem_append_right _ hf))

theorem ownMarkup_scores {r : Review} (h : r.Worded) :
    OwnMarkup (styled "bold" "Language:" ++ " " ++ r.language ++ "   " ++ styled "bold" "Score:"
      ++ " " ++ styled (Band.ofScore r.score.val).style (toString r.score.val ++ "/100") ++ "   "
      ++ toString r.issues.length ++ " issues • " ++ toString r.suggestions.length
      ++ " suggestions") := by
  have hbold : "bold" ∈ ownStyles := by decide
  have hgap : OwnMarkup "   " := .word (by decide +kernel)
  have hlanguage : OwnMarkup (styled "bold" "Language:" ++ " " ++ r.language ++ "   ") :=
    ((OwnMarkup.label hbold (by decide +kernel)).append h.language).append hgap
  have hscore : OwnMarkup
      (styled (Band.ofScore r.score.val).style (toString r.score.val ++ "/100") ++ "   ") :=
    (OwnMarkup.styled (Band.style_mem_ownStyles _)
      ((OwnMarkup.number _).append (.word (by decide +kernel)))).append hgap
  have hcounts : OwnMarkup (toString r.issues.length ++ " issues • "
      ++ toString r.suggestions.length ++ " suggestions") :=
    (((OwnMarkup.number _).append (.word (by decide +kernel))).append (.number _)).append
      (.word (by decide +kernel))
  have hall := hlanguage.append
    (((OwnMarkup.label hbold (by decide +kernel : "Score:" ∈ ownWords)).append hscore).append hcounts)
  simpa only [String.append_assoc] using hall

theorem escaped_heading {r : Review} (h : r.Worded) : ∀ e ∈ heading r, e.Escaped := by
  have hbold : "bold" ∈ ownStyles := by decide
  have hbreak : OwnMarkup "\n" := .word (by decide +kernel)
  have hfile : OwnMarkup ("\n" ++ styled "bold" "File:" ++ " ") := by
    rw [String.append_assoc]
    exact hbreak.append (.label hbold (by decide +kernel))
  have hsummary : OwnMarkup (styled "bold" "Summary:" ++ " " ++ r.summary ++ "\n") :=
    ((OwnMarkup.label hbold (by decide +kernel)).append h.summary).append hbreak
  simp only [heading, List.forall_mem_cons]
  exact ⟨escaped_line (hfile.escaped_behind r.filename), escaped_line (ownMarkup_scores h).escaped,
    escaped_line hsummary.escaped, List.forall_mem_nil _⟩

theorem escaped_details {r : Review} (h : r.Worded) : ∀ e ∈ details r, e.Escaped := by
  rw [details]
  split
  · exact List.forall_mem_nil _
  · exact List.forall_mem_singleton.2 (escaped_findings h)

theorem escaped_summary (rs : List Review) : (summary rs).Escaped := by
  refine escaped_table (by decide +kernel) (by decide +kernel) ?_
  rw [List.forall_mem_map]
  intro r _
  simp only [reviewRow, List.forall_mem_cons]
  exact ⟨escapedMarkup_escape _,
    (OwnMarkup.styled (Band.style_mem_ownStyles _) (.number _)).escaped,
    (OwnMarkup.number _).escaped, (OwnMarkup.number _).escaped, List.forall_mem_nil _⟩

end ConsoleEntry

end CodeReview
