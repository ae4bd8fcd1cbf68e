import CodeReview.FileTree
import CodeReview.SourceFile
import CodeReview.Text.Case

/-!
The files of a tree that are reviewed: a file that is named, or those below a directory whose
suffix tells that they hold code, in the order of their paths.
-/

namespace CodeReview

def codeSuffixes : List String :=
  [".c", ".cpp", ".cs", ".css", ".go", ".html", ".java", ".js", ".jsx", ".php", ".py", ".rb", ".rs",
    ".ts", ".tsx"]

def Path.isCode (p : Path) : Bool :=
  codeSuffixes.contains (Text.toLower p.suffix)

namespace FileTree

/-- The names that lead from a directory to the entries below it; without `recursive` only to the
entries in it. -/
def below (t : FileTree) (directory : Location) (recursive : Bool) : List (List String) :=
  (t.entries.filterMap fun e => Path.namesAfter? directory e.1).filter fun names =>
    names != [] && (recursive || names.length == 1)

/-- The files to be reviewed. A link to a directory is followed at the start, but not below it. -/
def scan (t : FileTree) (target : Path) (recursive : Bool) : List Path :=
  if t.isFile target then [target]
  else match t.find target with
    | .ok (.taken directory .directory) =>
      (((t.below directory recursive).map target.join).filter fun p =>
        t.isFile p && p.isCode).mergeSort Path.le
    | _ => []

inductive LoadError where
  | unreadable (error : PathError)
  | binary (message : String)
  deriving DecidableEq, Repr

def load (t : FileTree) (p : Path) : Except LoadError SourceFile :=
  match t.read p with
  | .error e => .error (.unreadable e)
  | .ok bytes => (SourceFile.ofBytes p.toString bytes).mapError .binary

end FileTree

end CodeReview
