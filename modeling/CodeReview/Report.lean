import CodeReview.FileTree
import CodeReview.Review
import CodeReview.Text.Utf8

/-!
Reports: reviews saved as files. A report is named for the reviewed file and the time, and for a
number where that name is taken, so no report takes the place of a file that was there.
-/

namespace CodeReview.Report

/-- The name of a reviewed file under a root, or its last name alone where it is not under it. -/
def names (filename : String) (root : Option Path) : List String :=
  let p := Path.ofString filename
  let last := (Path.ofString p.name).parts
  match root with
  | none => last
  | some r => (p.relativeTo? r).getD last

/-- What the names of the reports on a file begin with: no part of it leads out of a directory. -/
def stem (filename : String) (root : Option Path) : String :=
  String.ofList ((String.intercalate "_" (names filename root)).toList.map fun c =>
    if c = '.' then '_' else c)

def fileName (stem stamp : String) (n : Nat) : String :=
  stem ++ "_" ++ stamp ++ (if n ≤ 1 then "" else "_" ++ toString n) ++ ".json"

/-- The first name from the `n`th on that is free. Among more names than there are entries in the
tree, one is free. -/
def firstFree (t : FileTree) (directory : Path) (stem stamp : String) : (fuel n : Nat) → Path
  | 0, n => directory.join [fileName stem stamp n]
  | fuel + 1, n =>
    let p := directory.join [fileName stem stamp n]
    if t.exists_ p then firstFree t directory stem stamp fuel (n + 1) else p

/-- Why a review is not saved under a path: nothing can be written there, or the number of a line
has too many digits to be written at all. -/
inductive SaveFault where
  | path (error : PathError)
  | longLine (path : Path)
  deriving DecidableEq, Repr

def save (t : FileTree) (directory : Path) (stamp : String) (root : Option Path) (r : Review) :
    Except SaveFault (Path × FileTree) :=
  let p := firstFree t directory (stem r.filename root) stamp (t.entries.length + 1) 1
  if r.hasLongLine then .error (.longLine p)
  else match t.write p (Text.Utf8.encode r.text.toList) with
    | .error e => .error (.path e)
    | .ok t => .ok (p, t)

end CodeReview.Report
