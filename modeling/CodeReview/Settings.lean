import CodeReview.Assistant.Client
import CodeReview.Score.Policy
import CodeReview.Settings.EnvFile

/-!
Settings. A setting is taken from what is given at the start, else from the environment, else from
a file of settings, else it has its default. In the environment and in the file a setting has its
name with `qcr_` in front of it, in any case.
-/

namespace CodeReview

open Text

structure Settings where
  apiKey : Option String := none
  baseUrl : String := "https://api.openai.com/v1"
  model : String := "gpt-3.5-turbo"
  temperature : Binary64 := .ofRatio false 7 10
  maxTokens : Int := 1000
  timeout : Binary64 := 120
  maxChunkChars : Int := 12000
  scoringPolicy : String := "severity"
  flatIssuePenalty : Binary64 := 15
  flatSuggestionPenalty : Binary64 := 5
  severityCritical : Binary64 := 20
  severityHigh : Binary64 := 10
  severityMedium : Binary64 := 5
  severityLow : Binary64 := 0
  perSuggestion : Binary64 := 2
  maxWorkers : Int := 4
  maxFiles : Int := 30
  logLevel : String := "WARNING"
  deriving DecidableEq, Repr

/-- Where settings come from: an object of given values, the variables of the environment in the
order in which they were set, and the text of a file, if there is one. -/
structure SettingsSources where
  given : Json := .obj []
  environment : List (String × String) := []
  file : Option String := none

namespace SettingsSources

/-- The value of a variable of the environment; of several spellings of its name the last counts. -/
def environmentValue? (s : SettingsSources) (name : String) : Option String :=
  (s.environment.reverse.find? fun v => toLower v.1 == name).map (·.2)

def fileEntries (s : SettingsSources) : List EnvFile.Entry :=
  match s.file with
  | some text => EnvFile.entries s.environment text
  | none => []

def fileValue? (s : SettingsSources) (name : String) : Option String :=
  (s.fileEntries.reverse.find? fun e => toLower e.1 == name).bind (·.2)

def firstOf? (find? : String → Option String) (names : List String) : Option Json :=
  (names.findSome? find?).map .str

def value? (s : SettingsSources) (field : String) : Option Json :=
  let names := ["qcr_" ++ field]
  match s.given.field? field with
  | some v => some v
  | none => (firstOf? s.environmentValue? names).or (firstOf? s.fileValue? names)

def givenKeyNames : List String := ["QCR_API_KEY", "OPENAI_API_KEY", "api_key"]

/-- The variables that may hold the key, of which the first that is set counts. -/
def keyNames : List String := ["qcr_api_key", "openai_api_key"]

def key? (s : SettingsSources) : Option Json :=
  match givenKeyNames.findSome? s.given.field? with
  | some v => some v
  | none => (firstOf? s.environmentValue? keyNames).or (firstOf? s.fileValue? keyNames)

end SettingsSources

namespace Settings

def setting {α : Type} (s : SettingsSources) (field : String) (default : α)
    (check : Json → Checked α) : Checked α :=
  match s.value? field with
  | some v => (check v).at_ field
  | none => .valid default

/-- The key, checked if there is one. A fault in it is told by the first of its names, under
whichever it was given. -/
def checkKey (s : SettingsSources) : Checked (Option String) :=
  match s.key? with
  | some v => (Check.orNull Check.text v).at_ "QCR_API_KEY"
  | none => .valid none

def load (s : SettingsSources) : Checked Settings :=
  let d : Settings := {}
  Settings.mk
    <$> checkKey s
    <*> setting s "base_url" d.baseUrl Check.text
    <*> setting s "model" d.model Check.text
    <*> setting s "temperature" d.temperature Check.number
    <*> setting s "max_tokens" d.maxTokens Check.integer
    <*> setting s "timeout" d.timeout Check.number
    <*> setting s "max_chunk_chars" d.maxChunkChars Check.integer
    <*> setting s "scoring_policy" d.scoringPolicy Check.text
    <*> setting s "flat_issue_penalty" d.flatIssuePenalty Check.number
    <*> setting s "flat_suggestion_penalty" d.flatSuggestionPenalty Check.number
    <*> setting s "severity_critical" d.severityCritical Check.number
    <*> setting s "severity_high" d.severityHigh Check.number
    <*> setting s "severity_medium" d.severityMedium Check.number
    <*> setting s "severity_low" d.severityLow Check.number
    <*> setting s "per_suggestion" d.perSuggestion Check.number
    <*> setting s "max_workers" d.maxWorkers Check.integer
    <*> setting s "max_files" d.maxFiles Check.integer
    <*> setting s "log_level" d.logLevel Check.text

def toJson (s : Settings) : Json :=
  .obj [
    ("api_key", match s.apiKey with
      | none => .null
      | some k => .str k),
    ("base_url", .str s.baseUrl),
    ("model", .str s.model),
    ("temperature", .float s.temperature),
    ("max_tokens", .int s.maxTokens),
    ("timeout", .float s.timeout),
    ("max_chunk_chars", .int s.maxChunkChars),
    ("scoring_policy", .str s.scoringPolicy),
    ("flat_issue_penalty", .float s.flatIssuePenalty),
    ("flat_suggestion_penalty", .float s.flatSuggestionPenalty),
    ("severity_critical", .float s.severityCritical),
    ("severity_high", .float s.severityHigh),
    ("severity_medium", .float s.severityMedium),
    ("severity_low", .float s.severityLow),
    ("per_suggestion", .float s.perSuggestion),
    ("max_workers", .int s.maxWorkers),
    ("max_files", .int s.maxFiles),
    ("log_level", .str s.logLevel)]

def flatWeights (s : Settings) : Json :=
  .obj [
    ("issue_penalty", .float s.flatIssuePenalty),
    ("suggestion_penalty", .float s.flatSuggestionPenalty)]

def severityWeights (s : Settings) : Json :=
  .obj [
    ("critical", .float s.severityCritical),
    ("high", .float s.severityHigh),
    ("medium", .float s.severityMedium),
    ("low", .float s.severityLow),
    ("per_suggestion", .float s.perSuggestion)]

/-- The policy of a name with the weights of the settings. Without a name, or with an empty one,
it is the configured policy. -/
def scoring (s : Settings) (name : Option String) : Except PolicyError Policy :=
  let name := match name with
    | some n => if n.isEmpty then s.scoringPolicy else n
    | none => s.scoringPolicy
  if strip (toLower name) == "flat" then Policy.ofName name s.flatWeights
  else Policy.ofName name s.severityWeights

def clientOptions (s : Settings) : ClientOptions where
  baseUrl := s.baseUrl
  model := s.model
  temperature := .real s.temperature
  maxTokens := .int s.maxTokens
  timeout := .real s.timeout
  chunkLimit := s.maxChunkChars

end Settings

end CodeReview
