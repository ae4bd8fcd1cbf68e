import CodeReview.CommandLine.Options
import CodeReview.Configuration
import CodeReview.FileTree.Scan
import CodeReview.Logger
import CodeReview.Report

/-!
The program on the command line: it reviews the files of a target, shows the reviews, saves them as
reports and tells by its exit status whether they are good enough. Whatever can be found wrong with
the settings and the arguments is found before the first file is read.
-/

namespace CodeReview

/-- What the command line asks for, with the settings for what it leaves open. -/
structure Arguments where
  target : String
  recursive : Bool := true
  out : String := "reports"
  save : Bool := true
  policy : String
  ai : Bool := false
  model : String
  baseUrl : String
  temperature : Binary64
  maxFiles : Int
  workers : Int
  rejectEmpty : Bool := false
  failUnder : Option Int := none
  logLevel : String
  deriving DecidableEq, Repr

namespace Arguments

def ofWords (s : Settings) (target : String) (w : CommandWords) : Arguments where
  target := target
  recursive := !w.has .noRecursive
  out := w.text .out "reports"
  save := !w.has .noSave
  policy := w.text .policy s.scoringPolicy
  ai := w.has .ai
  model := w.text .model s.model
  baseUrl := w.text .baseUrl s.baseUrl
  temperature := w.real .temperature s.temperature
  maxFiles := (w.integer? .maxFiles).getD s.maxFiles
  workers := (w.integer? .workers).getD s.maxWorkers
  rejectEmpty := w.has .rejectEmpty
  failUnder := w.integer? .failUnder
  logLevel := w.text .logLevel s.logLevel

def choices (a : Arguments) : Choices where
  policy := a.policy
  rejectEmpty := a.rejectEmpty
  ai := a.ai
  model := a.model
  baseUrl := a.baseUrl
  temperature := .real a.temperature

def read (s : Settings) (args : List String) : Except ArgumentEnd Arguments :=
  (CommandWords.ofArguments args).map fun (target, w) => ofWords s target w

end Arguments

inductive Ending where
  | help
  | usage (error : UsageError)
  | status (code : Nat)
  | crash (cause : Crash)
  deriving DecidableEq, Repr

def Ending.code? : Ending → Option Nat
  | .help => some 0
  | .usage _ => some 2
  | .status n => some n
  | .crash _ => none

/-- What the program has done: what it gave to the console, the tree and the logger as it leaves
them, how many files it reviewed at a time, the reviews, and how it ended. -/
structure CommandRun where
  console : List ConsoleEntry := []
  tree : FileTree
  logger : Logger
  records : List LogRecord := []
  workers : Nat := 0
  reviews : List Review := []
  ending : Ending

/-- What the program is run with: how faults in the settings are put into words, and which entries
the console prints. One that it does not print ends the run. -/
structure Host where
  describe : SettingsSources → List FieldError → String
  prints : ConsoleEntry → Bool

/-- A console that fails at tags that close what is not open. -/
def closingHost (describe : SettingsSources → List FieldError → String) : Host where
  describe := describe
  prints := ConsoleEntry.closes

/-- A part of a run: what it gave to the console, the tree as it leaves it, and the failure that it
broke off with, if one did. -/
structure Progress where
  console : List ConsoleEntry := []
  tree : FileTree
  crash : Option Crash := none

def Progress.andThen (p : Progress) (next : FileTree → Progress) : Progress :=
  match p.crash with
  | some _ => p
  | none => { next p.tree with console := p.console ++ (next p.tree).console }

namespace CommandLine

def invalidSettings (text : String) : ConsoleEntry :=
  .line (Markup.styled "red" "Invalid QCR_* setting:" ++ " " ++ Markup.escape text)

def complaint (message : String) : ConsoleEntry :=
  .line (Markup.styled "red" message)

def tooManyFiles (count : Nat) : String :=
  "Too many files (" ++ toString count ++ "). Use --max-files or point to a smaller folder."

def refused (host : Host) (t : FileTree) (l : Logger) (message : ConsoleEntry) : CommandRun where
  console := [message]
  tree := t
  logger := l
  ending := if host.prints message then .status 2 else .crash (.untold message)

/-- The slot of each file, or the first file that cannot be read. -/
def slots (t : FileTree) : List Path → Except PathError (List Slot)
  | [] => .ok []
  | p :: ps =>
    match t.read p with
    | .error e => .error e
    | .ok bytes => (slots t ps).map (Slot.ofBytes p.toString bytes :: ·)

/-- Prints entries up to the first that the console does not take. -/
def print (host : Host) (t : FileTree) : List ConsoleEntry → Progress
  | [] => { tree := t }
  | e :: es =>
    if host.prints e then { print host t es with console := e :: (print host t es).console }
    else { console := [e], tree := t, crash := some (.unprinted e) }

/-- Shows a review. The table of its findings is not made where the number of a line has too many
digits to be written. -/
def render (host : Host) (r : Review) (t : FileTree) : Progress :=
  (print host t (ConsoleEntry.heading r)).andThen fun t =>
    if r.hasLongLine then { tree := t, crash := some .longLine }
    else print host t (ConsoleEntry.details r)

def saveFailure : Report.SaveFault → Crash
  | .path e => .path e
  | .longLine _ => .longLine

def keep (host : Host) (save : Option (Path × Option Path)) (stamp : String) (r : Review)
    (t : FileTree) : Progress :=
  match save with
  | none => { tree := t }
  | some (directory, root) =>
    match Report.save t directory stamp root r with
    | .error f => { tree := t, crash := some (saveFailure f) }
    | .ok (p, t) => print host t [.saved p]

/-- Shows reviews one after the other, and saves each behind showing it. The clock is asked for each
report; `n` counts those before. -/
def present (host : Host) (save : Option (Path × Option Path)) (clock : Nat → String) :
    (n : Nat) → List Review → FileTree → Progress
  | _, [], t => { tree := t }
  | n, r :: rs, t =>
    ((render host r t).andThen (keep host save (clock n) r)).andThen
      (present host save clock (n + 1) rs)

def verdict (failUnder : Option Int) (rs : List Review) : Nat :=
  match failUnder with
  | none => 0
  | some limit => if rs.any fun r => (r.score.val : Int) < limit then 1 else 0

def reportRoot (t : FileTree) (target : Path) : Path :=
  if t.isDirectory target then target else target.parent

def makeOut (a : Arguments) (t : FileTree) : Progress :=
  if a.save then
    let (t, e) := t.ensureDirectory (Path.ofString a.out)
    { tree := t, crash := e.map .path }
  else { tree := t }

/-- Where reports are saved, and what their names are told from. -/
def reports (a : Arguments) (t : FileTree) : Option (Path × Option Path) :=
  if a.save then some (Path.ofString a.out, some (reportRoot t (Path.ofString a.target))) else none

def deliver (host : Host) (a : Arguments) (clock : Nat → String) (rs : List Review) (t : FileTree) :
    Progress :=
  ((makeOut a t).andThen fun t => present host (reports a t) clock 0 rs t).andThen fun t =>
    print host t (if 1 < rs.length then [ConsoleEntry.summary rs] else [])

def finish (host : Host) (a : Arguments) (clock : Nat → String) (t : FileTree) (l : Logger)
    (b : BatchRun) (rs : List Review) : CommandRun :=
  let p := deliver host a clock rs t
  { console := p.console
    tree := p.tree
    logger := l
    records := b.records
    workers := b.workers
    reviews := rs
    ending := match p.crash with
      | some c => .crash c
      | none => .status (verdict a.failUnder rs) }

def reviewFiles (host : Host) (o : ReviewOptions Request Delivery) (a : Arguments)
    (clock : Nat → String) (t : FileTree) (l : Logger) (files : List Path) :
    Dialogue Request Delivery CommandRun :=
  match slots t files with
  | .error e => .done { tree := t, logger := l, ending := .crash (.path e) }
  | .ok ss =>
    (Batch.review o a.workers (Slot.sources ss)).bind fun b =>
      .done <| match b.outcome with
        | .error f =>
          { tree := t, logger := l, records := b.records, workers := b.workers
            ending := .crash (.score f) }
        | .ok rs => finish host a clock t l b (Slot.fill ss rs)

def runWith (host : Host) (s : Settings) (a : Arguments) (clock : Nat → String) (t : FileTree)
    (l : Logger) : Dialogue Request Delivery CommandRun :=
  match s.configure a.choices with
  | .error (.refused message) => .done (refused host t l (complaint message))
  | .error (.failed c) => .done { tree := t, logger := l, ending := .crash c }
  | .ok o =>
    let files := t.scan (Path.ofString a.target) a.recursive
    if files.isEmpty then .done (refused host t l (complaint "No reviewable files found."))
    else if a.maxFiles < files.length then
      .done (refused host t l (complaint (tooManyFiles files.length)))
    else reviewFiles host o a clock t l files

def settingsFile (t : FileTree) : Except Text.Utf8.Fault (Option String) :=
  match t.read (Path.ofString ".env") with
  | .ok bytes => (Text.Utf8.read 0 bytes).map fun text => some (String.ofList text)
  | .error _ => .ok none

def settingsSources (environment : List (String × String)) (t : FileTree) :
    Except Text.Utf8.Fault SettingsSources :=
  (settingsFile t).map fun file => { environment := environment, file := file }

def loadSettings (environment : List (String × String)) (t : FileTree) :
    Except Text.Utf8.Fault (Checked Settings) :=
  (settingsSources environment t).map Settings.load

/-- The program, run with some arguments in a tree. The clock tells the time for each report. -/
def run (host : Host) (environment : List (String × String)) (args : List String)
    (clock : Nat → String) (t : FileTree) (l : Logger) : Dialogue Request Delivery CommandRun :=
  match settingsSources environment t with
  | .error fault => .done { tree := t, logger := l, ending := .crash (.unreadableSettings fault) }
  | .ok sources =>
    match Settings.load sources with
    | .invalid es => .done (refused host t l (invalidSettings (host.describe sources es)))
    | .valid s =>
      match Arguments.read s args with
      | .error .help => .done { tree := t, logger := l, ending := .help }
      | .error (.refused e) => .done { tree := t, logger := l, ending := .usage e }
      | .ok a =>
        match l.configure a.logLevel with
        | .error kept => .done { tree := t, logger := l, ending := .crash (.notLevel kept) }
        | .ok l => runWith host s a clock t l

end CommandLine

end CodeReview
