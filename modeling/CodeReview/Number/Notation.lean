import CodeReview.Number.Decimal
import CodeReview.Text.Basic

/-!
How a person writes a number. Notations differ in whether white space may stand around a number, in
the digits they know, and in whether single underscores may stand between digits.
-/

namespace CodeReview

/-- What counts as white space around a number and as a digit in it, and whether underscores join
digits. -/
structure NumberNotation where
  blank : Char → Bool
  digit : Char → Option Nat
  joins : Bool

namespace NumberNotation

/-- White space around a number is that of the Unicode standard, which leaves out the four
separators from U+001C on. -/
def isSpace (c : Char) : Bool :=
  Text.isBlank c && !(28 ≤ c.toNat && c.toNat ≤ 31)

def plain : NumberNotation where
  blank _ := false
  digit c := if c.toNat < 128 then Text.digitValue? c else none
  joins := false

def setting : NumberNotation :=
  { plain with blank := isSpace }

/-- On the command line: decimal digits of every script. -/
def argument : NumberNotation where
  blank := isSpace
  digit := Text.digitValue?
  joins := true

def trimmed (s : NumberNotation) (t : String) : List Char :=
  ((t.toList.dropWhile s.blank).reverse.dropWhile s.blank).reverse

def moreDigits (s : NumberNotation) : List Char → List Nat × List Char
  | [] => ([], [])
  | '_' :: c :: t =>
    match if s.joins then s.digit c else none with
    | some d => let (ds, r) := moreDigits s t; (d :: ds, r)
    | none => ([], '_' :: c :: t)
  | c :: t =>
    match s.digit c with
    | some d => let (ds, r) := moreDigits s t; (d :: ds, r)
    | none => ([], c :: t)

def digits (s : NumberNotation) : List Char → List Nat × List Char
  | [] => ([], [])
  | c :: t =>
    match s.digit c with
    | some d => let (ds, r) := s.moreDigits t; (d :: ds, r)
    | none => ([], c :: t)

def valueOf (ds : List Nat) : Nat :=
  ds.foldl (fun n d => 10 * n + d) 0

def sign : List Char → Bool × List Char
  | '-' :: t => (true, t)
  | '+' :: t => (false, t)
  | t => (false, t)

/-- The most digits that an integer may be written with. -/
def maxDigits : Nat := 4300

def readInt? (s : NumberNotation) (t : String) : Option Int :=
  let (negative, r) := sign (s.trimmed t)
  match s.digits r with
  | ([], _) => none
  | (ds, []) =>
    if maxDigits < ds.length then none
    else some (if negative then -(valueOf ds : Int) else valueOf ds)
  | _ => none

def isWordCI (word : String) (t : List Char) : Bool :=
  t.map Char.toLower == word.toList

def exponent? (s : NumberNotation) : List Char → Option Int
  | [] => some 0
  | c :: t =>
    if c == 'e' || c == 'E' then
      let (negative, r) := sign t
      match s.digits r with
      | ([], _) => none
      | (ds, []) => some (if negative then -(valueOf ds : Int) else valueOf ds)
      | _ => none
    else none

def decimal? (s : NumberNotation) (t : List Char) : Option Decimal :=
  let (whole, r) := s.digits t
  let (fraction, r) := match r with
    | '.' :: r => s.digits r
    | _ => ([], r)
  if whole.isEmpty && fraction.isEmpty then none
  else (s.exponent? r).map fun e => ⟨valueOf (whole ++ fraction), e - fraction.length⟩

def readBinary64? (s : NumberNotation) (t : String) : Option Binary64 :=
  let (negative, r) := sign (s.trimmed t)
  if isWordCI "inf" r || isWordCI "infinity" r then some (.infinite negative)
  else if isWordCI "nan" r then some .nan
  else (s.decimal? r).map (Decimal.toBinary64 negative)

end NumberNotation

end CodeReview
