import CodeReview.Number.Notation

/-!
Numbers that are given as text. A text is read as it stands; where it is no number, it is tidied up
and read once more. So a number may have white space around it, zeros in front of it, single
underscores in it, and a whole one zeros behind a point.
-/

namespace CodeReview.Lenient

open NumberNotation

/-- A text that has underscores, without them. None may stand at an end or next to another one. -/
def joined? (t : List Char) : Option (List Char) :=
  if t.contains '_' && t.head? != some '_' && t.getLast? != some '_'
      && !Text.occursIn ['_', '_'] t then
    some (t.filter (· != '_'))
  else none

/-- The number that a text gives. Where underscores are left out, white space is not. -/
def readBinary64? (s : String) : Option Binary64 :=
  match setting.readBinary64? s with
  | some x => some x
  | none => (joined? s.toList).bind fun t => plain.readBinary64? (String.ofList t)

inductive IntegerFault where
  | unreadable
  | tooLong
  deriving DecidableEq, Repr

/-- Reads an integer that is the whole text. One with too many characters is refused before what
follows its digits is looked at. -/
def readPlain (t : List Char) : Except IntegerFault Int :=
  let r := match t with
    | '-' :: r => r
    | _ => t
  let (ds, rest) := plain.digits r
  match ds with
  | [] => .error .unreadable
  | 0 :: ds => if ds = [] ∧ rest = [] then .ok 0 else .error .unreadable
  | ds =>
    if maxDigits < t.length - rest.length then .error .tooLong
    else if rest ≠ [] then .error .unreadable
    else .ok (if t.head? = some '-' then -(valueOf ds : Int) else valueOf ds)

def leads (c : Char) : Bool :=
  c == '-' || ('1' ≤ c && c ≤ '9')

/-- Passes over zeros, and underscores between them, behind `last`. The last one stays where a
point or the end of the text follows. -/
def afterZeros? (last : Char) : List Char → Option (List Char)
  | [] => some [last]
  | c :: t =>
    if c == '0' || c == '_' then afterZeros? c t
    else if leads c then some (c :: t)
    else if c == '.' then some (last :: c :: t)
    else none

def withoutZeros? : List Char → Option (List Char)
  | [] => none
  | c :: t => if c == '0' then afterZeros? c t else if leads c then some (c :: t) else none

def withoutPoint? (t : List Char) : Option (List Char) :=
  match t.dropWhile (· != '.') with
  | [] => some t
  | _ :: zs =>
    if zs != [] && zs.all (· == '0') then some (t.takeWhile (· != '.')) else none

def tidyUnsigned? (t : List Char) : Option (List Char) :=
  (withoutZeros? t).bind fun t => (withoutPoint? t).map fun t => (joined? t).getD t

def tidy? (s : String) : Option (List Char) :=
  match setting.trimmed s with
  | '-' :: t => (tidyUnsigned? t).map ('-' :: ·)
  | '+' :: t => if t.head? = some '-' then none else tidyUnsigned? t
  | t => tidyUnsigned? t

def readInt (s : String) : Except IntegerFault Int :=
  match readPlain s.toList with
  | .ok i => .ok i
  | .error .tooLong => .error .tooLong
  | .error .unreadable =>
    match (tidy? s).map readPlain with
    | some (.ok i) => .ok i
    | _ => .error .unreadable

end CodeReview.Lenient
