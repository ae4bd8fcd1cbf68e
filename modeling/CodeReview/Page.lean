import CodeReview.Configuration
import CodeReview.FileTree.Scan

/-!
The page on which files are uploaded and their reviews are read. Every visit draws the page from the
top; between visits the page keeps the reviews of the last batch that was completed, until they are
cleared. Filters choose what is shown of the reviews, and change none of them.
-/

namespace CodeReview

inductive TextStyle where
  | title
  | header
  | subheader
  | caption
  | markdown
  | write
  | info
  | warning
  | error
  | success
  | spinner
  deriving DecidableEq, Repr

structure FindingRow where
  kind : String
  finding : Finding
  deriving DecidableEq, Repr

inductive PageElement where
  | text (style : TextStyle) (content : String)
  | radio (label default : String)
  | checkbox (label : String) (default : Bool)
  | textInput (label default : String)
  | slider (label : String) (default : Binary64)
  | choices (label : String) (default : List String)
  | uploader (types : List String)
  | button (label : String)
  | expander (label : String) (expanded : Bool)
  | findings (rows : List FindingRow)
  | download (label content fileName key : String)
  | stop
  | rerun
  deriving Repr

/-- A file that is uploaded. No string of bytes is longer than a machine word can tell. -/
structure Upload where
  name : String
  bytes : List UInt8
  fits : bytes.length < Nat.pow 2 63 := by decide +kernel
  deriving DecidableEq, Repr

/-- What a visitor has entered. What is left alone has the value that the page gives. -/
structure PageInput where
  uploads : List Upload := []
  policy : Option String := none
  rejectEmpty : Bool := false
  ai : Bool := false
  model : Option String := none
  baseUrl : Option String := none
  temperature : Option Amount := none
  severities : Option (List String) := none
  search : String := ""
  review : Bool := false
  clear : Bool := false

structure PageState where
  reviews : Option (List Review) := none
  deriving DecidableEq, Repr

/-- What a visit has drawn, what the page keeps, how many files were reviewed at a time, and the
failure that ended the visit, if one did. -/
structure PageRun where
  elements : List PageElement
  state : PageState
  workers : Nat := 0
  crash : Option Crash := none

namespace Page

open PageElement

def defaultPolicy (s : Settings) : String :=
  if s.scoringPolicy == "severity" then "severity" else "flat"

def severityNames : List String := Severity.all.map Severity.name

def controls (s : Settings) : List PageElement := [
  .text .title "QCR: Quality Code Reviewer",
  .text .caption
    "Upload code files. Rule-based checks for security, quality and maintainability, scored 0-100.",
  .text .header "Scoring",
  radio "Policy" (defaultPolicy s),
  checkbox "Fail empty files" false,
  .text .header "AI review",
  checkbox "Append AI feedback" false,
  textInput "Model" s.model,
  textInput "API base URL" s.baseUrl,
  slider "Temperature" s.temperature,
  .text .subheader "Filters",
  PageElement.choices "Severity" severityNames,
  textInput "Search in messages" "",
  .text .markdown ("**Supported uploads:** " ++ String.intercalate ", " codeSuffixes),
  uploader (codeSuffixes.map fun s => String.ofList (s.toList.drop 1)),
  button "Review now",
  button "Clear"]

def choices (s : Settings) (i : PageInput) : Choices where
  policy := i.policy.getD (defaultPolicy s)
  rejectEmpty := i.rejectEmpty
  ai := i.ai
  model := i.model.getD s.model
  baseUrl := i.baseUrl.getD s.baseUrl
  temperature := i.temperature.getD (.real s.temperature)

def passes (i : PageInput) (f : Finding) : Bool :=
  let search := Text.strip i.search
  (i.severities.getD severityNames).contains f.severity.name
    && Text.contains (Text.toLower f.message) (Text.toLower search)

def shownFindings (i : PageInput) (r : Review) : List FindingRow :=
  (r.issues.map (FindingRow.mk "issue") ++ r.suggestions.map (FindingRow.mk "suggestion")).filter
    fun row => passes i row.finding

def badge (r : Review) : String :=
  let band := Band.ofScore r.score.val
  "<span class=\"qcr-badge qcr-" ++ band.name ++ "\"><b>" ++ toString r.score.val ++ "/100</b> · "
    ++ band.title ++ "</span>"

/-- A review, where `number` counts the reviews before it. The download holds all its findings; there
is none where the number of a line has too many digits to be written. -/
def showReview (i : PageInput) (number : Nat) (r : Review) : List PageElement :=
  let rows := shownFindings i r
  [.text .markdown ("### " ++ r.filename),
    .text .write ("**Summary:** " ++ r.summary),
    .text .caption (toString r.issues.length ++ " issues • " ++ toString r.suggestions.length
      ++ " suggestions"),
    .text .markdown (badge r),
    .text .caption ("Language: " ++ r.language)]
    ++ (match r.error with
      | some e => if e.isEmpty then [] else [.text .error e]
      | none => [])
    ++ [expander "Show findings" !rows.isEmpty,
      if rows.isEmpty then .text .success "No findings (after filters)."
      else PageElement.findings rows]
    ++ (if r.hasLongLine then []
      else [download "Download JSON report" r.text
        ((Path.ofString r.filename).stem ++ "_review.json") ("download-" ++ toString number)])

/-- The reviews up to the first for which there is no download. -/
def showReviews (i : PageInput) : (number : Nat) → List Review → List PageElement
  | _, [] => []
  | n, r :: rs => showReview i n r ++ if r.hasLongLine then [] else showReviews i (n + 1) rs

def showState (i : PageInput) (drawn : List PageElement) (state : PageState) : PageRun :=
  match state.reviews with
  | some (r :: rs) =>
    { elements := drawn ++ showReviews i 0 (r :: rs)
      state := state
      crash := if (r :: rs).any Review.hasLongLine then some .longLine else none }
  | _ =>
    { elements := drawn ++ [.text .warning "Click **Review now** to generate feedback.", stop]
      state := state }

def reviewUploads (o : ReviewOptions Request Delivery) (wanted : Int) (i : PageInput)
    (drawn : List PageElement) (state : PageState) : Dialogue Request Delivery PageRun :=
  let slots := i.uploads.map fun u => Slot.ofBytes u.name u.bytes
  let sources := Slot.sources slots
  let drawn := drawn
    ++ [.text .spinner ("Reviewing " ++ toString sources.length ++ " file(s)...")]
  (Batch.review o wanted sources).bind fun b =>
    .done <| match b.outcome with
      | .error f =>
        { elements := drawn, state := state, workers := b.workers, crash := some (.score f) }
      | .ok rs => { showState i drawn ⟨some (Slot.fill slots rs)⟩ with workers := b.workers }

def visitWith (s : Settings) (i : PageInput) (state : PageState) :
    Dialogue Request Delivery PageRun :=
  let drawn := controls s
  if i.clear then .done { elements := drawn ++ [rerun], state := {} }
  else if i.uploads.isEmpty then
    .done {
      elements := drawn ++ [.text .info "Upload one or more code files to review.", stop]
      state := state }
  else if i.review then
    match s.configure (choices s i) with
    | .error (.refused m) =>
      .done { elements := drawn ++ [.text .error m, stop], state := state }
    | .error (.failed c) => .done { elements := drawn, state := state, crash := some c }
    | .ok o => reviewUploads o s.maxWorkers i drawn state
  else .done (showState i drawn state)

/-- A visit of the page, where `describe` puts faults in the settings into words. -/
def visit (describe : SettingsSources → List FieldError → String) (sources : SettingsSources)
    (i : PageInput) (state : PageState) : Dialogue Request Delivery PageRun :=
  match Settings.load sources with
  | .invalid es =>
    .done {
      elements := [.text .error ("Invalid QCR_* setting: " ++ describe sources es), stop]
      state := state }
  | .valid s => visitWith s i state

end Page

end CodeReview
