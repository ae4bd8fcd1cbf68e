import CodeReview.CommandLine
import Std.Time

/-!
The program on the command line of a real system. What the arguments name is read into a tree, in
which the working directory has its place, and what has come into the tree is written back. No
connection is made from here, so every request of an assistant is lost.
-/

namespace CodeReview.Main

def variableNames : List String :=
  ["OPENAI_API_KEY", "QCR_API_KEY", "QCR_BASE_URL", "QCR_MODEL", "QCR_TEMPERATURE",
    "QCR_MAX_TOKENS", "QCR_TIMEOUT", "QCR_MAX_CHUNK_CHARS", "QCR_SCORING_POLICY",
    "QCR_FLAT_ISSUE_PENALTY", "QCR_FLAT_SUGGESTION_PENALTY", "QCR_SEVERITY_CRITICAL",
    "QCR_SEVERITY_HIGH", "QCR_SEVERITY_MEDIUM", "QCR_SEVERITY_LOW", "QCR_PER_SUGGESTION",
    "QCR_MAX_WORKERS", "QCR_MAX_FILES", "QCR_LOG_LEVEL", "HOME", "USER"]

def readEnvironment : IO (List (String × String)) := do
  let found ← variableNames.mapM fun n => do return (← IO.getEnv n).map fun v => (n, v)
  return found.filterMap id

/-- Adds what a path leads to, and what is below it, to a tree. -/
partial def readPlace (t : FileTree) (p : Path) : IO FileTree := do
  let path := (← IO.currentDir) / p.toString
  if ← path.isDir then
    (← path.readDir).foldlM (fun t e => readPlace t (p.join [e.fileName])) (t.plant p .directory)
  else if ← path.pathExists then
    return t.plant p (.file (← IO.FS.readBinFile path).toList)
  else return t

/-- The tree with the working directory, as far as it matters for the arguments: what they name, the
directory of the reports, and the file of settings. -/
def readTree (args : List String) : IO FileTree := do
  let working := (Path.ofString (← IO.currentDir).toString).parts
  let housed : FileTree := FileTree.plant { working := working } ⟨.single, working⟩ .directory
  let values := args.filterMap fun a => (Argument.splitValue a.toList).2
  let places := ".env" :: "reports" :: args ++ values.filter fun v => !v.isEmpty
  places.foldlM (fun t s => readPlace t (Path.ofString s)) housed

def writeNew (before after : FileTree) : IO Unit := do
  for (at_, e) in after.entries do
    if (before.entry? at_).isNone then
      let path := (← IO.currentDir) / Path.toString ⟨.single, at_⟩
      match e with
      | .file bytes => IO.FS.writeBinFile path (ByteArray.mk bytes.toArray)
      | .directory => IO.FS.createDirAll path
      | .link _ => pure ()

/-- Words for faults in the settings: how many there are, and where. -/
def describe (_ : SettingsSources) (es : List FieldError) : String :=
  toString es.length ++ (if es.length = 1 then " validation error" else " validation errors")
    ++ " for Settings" ++ String.join (es.map fun e => "\n" ++ String.intercalate "." e.path)

def show_ : ConsoleEntry → IO Unit
  | .line m => IO.println (Markup.plain m)
  | .table title columns rows => do
    IO.println title
    for row in columns :: rows do
      IO.println (String.intercalate " | " (row.map Markup.plain))

def usage : String :=
  "usage: qcr [options] target\noptions: "
    ++ String.intercalate ", " (CommandOption.all.map CommandOption.title)

def crashText : Crash → String
  | .unreadableSettings f => f.message
  | .notLevel kept => kept.message
  | .invalidWeights k es => toString es.length ++ " invalid weights of the policy " ++ k.name
  | .untold _ => "A message has a closing tag that no tag opens"
  | .unprinted _ => "A path has a closing tag that no tag opens"
  | .longLine => "The number of a line has too many digits to be written"
  | .path e => e.message
  | .score f => f.message

def finish (run : CommandRun) : IO UInt32 := do
  for r in run.records do
    if run.logger.level ≤ r.level.number then
      IO.eprintln (r.level.name ++ " " ++ r.message)
  run.console.forM show_
  match run.ending with
  | .help => IO.println usage
  | .usage e => IO.eprintln (usage ++ "\nqcr: error: " ++ e.message)
  | .crash c => IO.eprintln (crashText c)
  | .status _ => pure ()
  return (UInt32.ofNat (run.ending.code?.getD 1))

end CodeReview.Main

open CodeReview in
def main (args : List String) : IO UInt32 := do
  let before ← Main.readTree args
  let stamp := (← Std.Time.PlainDateTime.now).format "uuuuMMdd_HHmmss"
  let lost : Request → Delivery := fun _ => .lost "no connection"
  let run :=
    (CommandLine.run (closingHost Main.describe) (← Main.readEnvironment) args (fun _ => stamp)
      before {}).result lost
  Main.writeNew before run.tree
  Main.finish run
