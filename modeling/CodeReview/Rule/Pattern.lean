import CodeReview.Finding
import CodeReview.Text.Case

/-!
The marks that rules look for in a text. Whether a mark stands at a place depends on the character
before the place and on the text from there on. A mark is searched from the start of the text, and
the line reported for it is the line on which its first occurrence begins.
-/

namespace CodeReview

open Text

inductive Pattern where
  | evalCall
  | passwordText
  | innerHtml
  | varDeclaration
  | consoleLog
  | fetchCall
  | catchWord
  | branchWord
  | functionMark
  | commentLine
  | magicNumber
  | constantDeclaration
  deriving DecidableEq, Repr

namespace Pattern

def opensWord (before : Option Char) : Bool :=
  !before.any isWord

def closesWord (t : List Char) : Bool :=
  !t.head?.any isWord

def isWordAt (word : String) (before : Option Char) (t : List Char) : Bool :=
  opensWord before && (after? word.toList t).any closesWord

def isCallAt (name : String) (before : Option Char) (t : List Char) : Bool :=
  opensWord before && (after? name.toList t).any fun r => (trimStart r).head? == some '('

def isNamingAt (word : String) (before : Option Char) (t : List Char) : Bool :=
  opensWord before && (after? word.toList t).any fun r =>
    r.head?.any isBlank && (trimStart r).head?.any isWord

def branchWords : List String := ["if", "for", "while", "switch", "catch"]

def isCommentStart (t : List Char) : Bool :=
  ["//", "#", "/*", "*", "<!--"].any fun m => startsWith m.toList t

def isCapital (c : Char) : Bool :=
  'A' ≤ c && c ≤ 'Z'

def isConstantName (t : List Char) : Bool :=
  t.head?.any isCapital &&
    let r := trimStart (t.dropWhile fun c => isCapital c || ('0' ≤ c && c ≤ '9') || c == '_')
    r.head? == some ':' || r.head? == some '='

def isConstantStart (t : List Char) : Bool :=
  ["const", "final", "#define"].any (fun w => (after? w.toList t).any closesWord)
    || (after? "static".toList t).any (fun r =>
      r.head?.any isBlank && (after? "final".toList (trimStart r)).any closesWord)
    || isConstantName t

def skipExport (t : List Char) : List Char :=
  match after? "export".toList t with
  | some r => if r.head?.any isBlank then trimStart r else t
  | none => t

/-- Three or more digits that no word and no point reaches up to and no word continues. -/
def isMagicNumberAt (before : Option Char) (t : List Char) : Bool :=
  opensWord before && before != some '.'
    && 3 ≤ (t.takeWhile isDigit).length && closesWord (t.dropWhile isDigit)

/-- Whether the mark stands before `t`, where `before` is the character in front of it. -/
def startsAt (p : Pattern) (before : Option Char) (t : List Char) : Bool :=
  match p with
  | .evalCall => isCallAt "eval" before t
  | .passwordText =>
    (afterCI? "password".toList t).any fun r =>
      match trimStart r with
      | '=' :: r => (trimStart r).head?.any fun c => c == '\'' || c == '"'
      | _ => false
  | .innerHtml => startsWith "innerHTML".toList t
  | .varDeclaration =>
    opensWord before && (after? "var".toList t).any fun r => r.head?.any isBlank
  | .consoleLog => isWordAt "console.log" before t
  | .fetchCall => isCallAt "fetch" before t
  | .catchWord => isWordAt "catch" before t
  | .branchWord => branchWords.any fun w => isWordAt w before t
  | .functionMark =>
    isWordAt "function" before t || startsWith "=>".toList t
      || isNamingAt "def" before t || isNamingAt "func" before t || isNamingAt "fn" before t
  | .commentLine => before.isNone && isCommentStart (trimStart t)
  | .magicNumber => isMagicNumberAt before t
  | .constantDeclaration =>
    before.isNone && isConstantStart (skipExport (trimStart t))

/-- The number of line feeds in front of the first occurrence, from a place on that has `n` line
feeds and the character `before` in front of it. -/
def feedsBefore? (p : Pattern) (n : Nat) (before : Option Char) : List Char → Option Nat
  | [] => none
  | c :: t =>
    if p.startsAt before (c :: t) then some n
    else p.feedsBefore? (if c = '\n' then n + 1 else n) (some c) t

def firstLine (p : Pattern) (t : List Char) : Option LineNumber :=
  (p.feedsBefore? 0 none t).map fun n => ⟨n + 1, Nat.succ_pos n⟩

def occursAfter (p : Pattern) (before : Option Char) : List Char → Bool
  | [] => false
  | c :: t => p.startsAt before (c :: t) || p.occursAfter (some c) t

def occurs (p : Pattern) (t : List Char) : Bool :=
  p.occursAfter none t

def countAfter (p : Pattern) (before : Option Char) : List Char → Nat
  | [] => 0
  | c :: t => (if p.startsAt before (c :: t) then 1 else 0) + p.countAfter (some c) t

def count (p : Pattern) (t : List Char) : Nat :=
  p.countAfter none t

theorem isSome_feedsBefore? (p : Pattern) (n : Nat) (b : Option Char) (t : List Char) :
    (p.feedsBefore? n b t).isSome = p.occursAfter b t := by
  induction t generalizing n b with
  | nil => rfl
  | cons c t ih =>
    simp only [feedsBefore?, occursAfter]
    split
    · next h => simp [h]
    · next h => simp [h, ih]

theorem isSome_firstLine (p : Pattern) (t : List Char) :
    (p.firstLine t).isSome = p.occurs t := by
  simp [firstLine, occurs, isSome_feedsBefore?]

end Pattern

end CodeReview
