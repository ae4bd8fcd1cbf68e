import CodeReview.Text.Basic

/-!
Paths, as a text names them. A path is a root and the names behind it; repeated slashes, a slash at
the end and names of a single dot do not count, and two leading slashes are a root of their own.
-/

namespace CodeReview

open Text

/-- What a path starts from: the working directory, or one of two roots. -/
inductive PathRoot where
  | working
  | single
  | double
  deriving DecidableEq, Repr

def PathRoot.text : PathRoot → String
  | .working => ""
  | .single => "/"
  | .double => "//"

structure Path where
  root : PathRoot := .working
  parts : List String := []
  deriving DecidableEq, Repr

namespace Path

def names (t : List Char) : List String :=
  ((t.splitOn '/').filter fun n => n != [] && n != ['.']).map String.ofList

/-- The root that a text starts with: exactly two slashes are the double one. -/
def rootOf (t : List Char) : PathRoot :=
  match (t.takeWhile (· == '/')).length with
  | 0 => .working
  | 2 => .double
  | _ => .single

def ofString (s : String) : Path :=
  ⟨rootOf s.toList, names s.toList⟩

def toString (p : Path) : String :=
  let names := String.intercalate "/" p.parts
  if p.root = .working ∧ p.parts = [] then "." else p.root.text ++ names

def name (p : Path) : String :=
  p.parts.getLast?.getD ""

/-- A name cut before its last dot, unless that dot is its first or its last character. -/
def splitName (n : List Char) : List Char × List Char :=
  let ending := (n.reverse.takeWhile (· != '.')).reverse
  let before := n.take (n.length - ending.length - 1)
  if ending.isEmpty || before.isEmpty then (n, []) else (before, '.' :: ending)

def stem (p : Path) : String :=
  String.ofList (splitName p.name.toList).1

def suffix (p : Path) : String :=
  String.ofList (splitName p.name.toList).2

def parent (p : Path) : Path :=
  { p with parts := p.parts.dropLast }

def join (p : Path) (names : List String) : Path :=
  { p with parts := p.parts ++ names }

def namesAfter? : (start names : List String) → Option (List String)
  | [], ns => some ns
  | _ :: _, [] => none
  | s :: ss, n :: ns => if s = n then namesAfter? ss ns else none

def relativeTo? (p base : Path) : Option (List String) :=
  if p.root = base.root then namesAfter? base.parts p.parts else none

def nameLt (a b : String) : Bool :=
  List.lex a.toList b.toList fun c d => c.toNat < d.toNat

def le (p q : Path) : Bool :=
  !List.lex q.parts p.parts nameLt

end Path

end CodeReview
