import CodeReview.Path
import CodeReview.Text.Quoted

/-!
A tree of files, directories and links. Every entry stands under the names that lead to it from the
top, so what is below a directory is what its names begin. A path is followed name by name, through
links, from the top or from the working directory. Names may be of any length.
-/

namespace CodeReview

/-- The names that lead from the top of a tree to an entry. -/
abbrev Location := List String

inductive FileEntry where
  | file (bytes : List UInt8)
  | directory
  | link (target : String)
  deriving DecidableEq, Repr

def putEntry (entries : List (Location × FileEntry)) (at_ : Location) (e : FileEntry) :
    List (Location × FileEntry) :=
  match entries with
  | [] => [(at_, e)]
  | (l, d) :: es => if l = at_ then (l, e) :: es else (l, d) :: putEntry es at_ e

theorem mem_map_putEntry {entries : List (Location × FileEntry)} {at_ l : Location}
    {e : FileEntry} : l ∈ (putEntry entries at_ e).map (·.1) ↔ l = at_ ∨ l ∈ entries.map (·.1) := by
  induction entries with
  | nil => simp [putEntry]
  | cons d es ih =>
    simp only [putEntry]
    split
    · next h => simp [h]
    · simp only [List.map_cons, List.mem_cons, ih]
      grind

theorem nodup_putEntry {entries : List (Location × FileEntry)} (at_ : Location) (e : FileEntry)
    (h : (entries.map (·.1)).Nodup) : ((putEntry entries at_ e).map (·.1)).Nodup := by
  induction entries with
  | nil => simp [putEntry]
  | cons d es ih =>
    simp only [List.map_cons, List.nodup_cons] at h
    simp only [putEntry]
    split
    · simpa using h
    · next hd =>
      simp only [List.map_cons, List.nodup_cons, mem_map_putEntry, not_or]
      exact ⟨⟨hd, h.1⟩, ih h.2⟩

/-- Where names are followed from behind a root; without one it is the given place. -/
def PathRoot.start (at_ : Location) : PathRoot → Location
  | .working => at_
  | .single => []
  | .double => []

/-- A tree holds one entry at a place. The top is a directory, and has no entry. -/
structure FileTree where
  entries : List (Location × FileEntry) := []
  working : Location := []
  nodup : (entries.map (·.1)).Nodup := by simp
  deriving Repr

inductive PathFault where
  | notFound
  | alreadyExists
  | notDirectory
  | isDirectory
  | tooManyLinks
  deriving DecidableEq, Repr

namespace PathFault

def number : PathFault → Nat
  | .notFound => 2
  | .alreadyExists => 17
  | .notDirectory => 20
  | .isDirectory => 21
  | .tooManyLinks => 40

def description : PathFault → String
  | .notFound => "No such file or directory"
  | .alreadyExists => "File exists"
  | .notDirectory => "Not a directory"
  | .isDirectory => "Is a directory"
  | .tooManyLinks => "Too many levels of symbolic links"

end PathFault

structure PathError where
  fault : PathFault
  path : Path
  deriving DecidableEq, Repr

def PathError.message (e : PathError) : String :=
  "[Errno " ++ toString e.fault.number ++ "] " ++ e.fault.description ++ ": "
    ++ Text.quoted e.path.toString

namespace FileTree

def entry? (t : FileTree) (at_ : Location) : Option FileEntry :=
  if at_ = [] then some .directory else (t.entries.find? (·.1 = at_)).map (·.2)

def put (t : FileTree) (at_ : Location) (e : FileEntry) : FileTree :=
  { t with entries := putEntry t.entries at_ e, nodup := nodup_putEntry at_ e t.nodup }

/-- Where a path leads: to an entry, or to a place in a directory at which there is none. -/
inductive Place where
  | taken (at_ : Location) (e : FileEntry)
  | free (at_ : Location)
  deriving DecidableEq, Repr

def maxLinks : Nat := 40

/-- The names between the slashes of a link. One that is empty or a single dot leads nowhere else,
but what is in front of it has to be a directory. -/
def linkNames (target : String) : List String :=
  (target.toList.splitOn '/').map String.ofList

/-- Above the top there is nothing but the top. -/
def walk (t : FileTree) (links : Nat) (at_ : Location) (names : List String) :
    Except PathFault Place :=
  match names with
  | [] => .ok (.taken at_ .directory)
  | n :: ns =>
    if n = "." ∨ n = "" then t.walk links at_ ns
    else if n = ".." then t.walk links at_.dropLast ns
    else match t.entry? (at_ ++ [n]) with
      | none => if ns = [] then .ok (.free (at_ ++ [n])) else .error .notFound
      | some .directory => t.walk links (at_ ++ [n]) ns
      | some (.file bytes) =>
        if ns = [] then .ok (.taken (at_ ++ [n]) (.file bytes)) else .error .notDirectory
      | some (.link target) =>
        match links with
        | 0 => .error .tooManyLinks
        | k + 1 =>
          t.walk k ((Path.rootOf target.toList).start at_) (linkNames target ++ ns)
termination_by (links, names.length)

def find (t : FileTree) (p : Path) : Except PathFault Place :=
  t.walk maxLinks (p.root.start t.working) p.parts

def isFile (t : FileTree) (p : Path) : Bool :=
  match t.find p with
  | .ok (.taken _ (.file _)) => true
  | _ => false

def isDirectory (t : FileTree) (p : Path) : Bool :=
  match t.find p with
  | .ok (.taken _ .directory) => true
  | _ => false

def exists_ (t : FileTree) (p : Path) : Bool :=
  match t.find p with
  | .ok (.taken _ _) => true
  | _ => false

def read (t : FileTree) (p : Path) : Except PathError (List UInt8) :=
  match t.find p with
  | .ok (.taken _ (.file bytes)) => .ok bytes
  | .ok (.taken _ _) => .error ⟨.isDirectory, p⟩
  | .ok (.free _) => .error ⟨.notFound, p⟩
  | .error f => .error ⟨f, p⟩

def write (t : FileTree) (p : Path) (bytes : List UInt8) : Except PathError FileTree :=
  match t.find p with
  | .ok (.taken at_ (.file _)) => .ok (t.put at_ (.file bytes))
  | .ok (.taken _ _) => .error ⟨.isDirectory, p⟩
  | .ok (.free at_) => .ok (t.put at_ (.file bytes))
  | .error f => .error ⟨f, p⟩

/-- Makes one directory in another one. A link in its place is not followed. -/
def makeDirectory (t : FileTree) (p : Path) : Except PathError FileTree :=
  match p.parts.getLast? with
  | none => .error ⟨.alreadyExists, p⟩
  | some n =>
    match t.find p.parent with
    | .error f => .error ⟨f, p⟩
    | .ok (.free _) => .error ⟨.notFound, p⟩
    | .ok (.taken at_ .directory) =>
      if n = ".." ∨ (t.entry? (at_ ++ [n])).isSome then .error ⟨.alreadyExists, p⟩
      else .ok (t.put (at_ ++ [n]) .directory)
    | .ok (.taken _ _) => .error ⟨.notDirectory, p⟩

/-- Makes a directory, and the directories on the way to it that are missing. A directory that is
there is as good as a new one. What has been made stays where a fault stops the making. -/
def ensureDirectory (t : FileTree) (p : Path) : FileTree × Option PathError :=
  let orThere (t : FileTree) (e : PathError) := (t, if t.isDirectory p then none else some e)
  match t.makeDirectory p with
  | .ok t => (t, none)
  | .error e =>
    if e.fault = .notFound then
      if _h : p.parts = [] then (t, some e)
      else match t.ensureDirectory p.parent with
        | (t, some e) => (t, some e)
        | (t, none) =>
          match t.makeDirectory p with
          | .ok t => (t, none)
          | .error e => if e.fault = .notFound then (t, some e) else orThere t e
    else orThere t e
termination_by p.parts.length
decreasing_by
  simp only [Path.parent, List.length_dropLast]
  have := List.length_pos_iff.2 _h
  omega

/-- The tree with an entry, and with the directories on the way to it that are missing. Where
something else is in the way, the entry is left out. -/
def plant (t : FileTree) (p : Path) (e : FileEntry) : FileTree :=
  let t := (t.ensureDirectory p.parent).1
  match e with
  | .directory => (t.ensureDirectory p).1
  | .file bytes => (t.write p bytes).toOption.getD t
  | .link target =>
    match t.find p.parent, p.parts.getLast? with
    | .ok (.taken at_ .directory), some n => t.put (at_ ++ [n]) (.link target)
    | _, _ => t

end FileTree

end CodeReview
