import CodeReview.Text.Basic
import CodeReview.Unicode.CaseTables

/-!
Upper and lower case of whole texts. A few letters grow when their case changes, and a capital
sigma becomes the final form at the end of a word, so both maps are defined on texts.
-/

namespace CodeReview.Text

open Unicode

def shifted (table : Array Run) (c : Char) : Char :=
  match findRun table c.toNat with
  | some r => Char.ofNat (c.toNat + r.shift).toNat
  | none => c

/-- Characters that are passed over when a sigma looks for its neighbours. -/
def isCaseIgnorable (c : Char) : Bool :=
  if c.toNat < 128 then c == '\'' || c == '.' || c == ':' || c == '^' || c == '\x60'
  else inTable caseIgnorableTable c.toNat

def isCased (c : Char) : Bool :=
  if c.toNat < 128 then c.isAlpha else inTable casedTable c.toNat

def lowerChar (c : Char) : List Char :=
  if c.toNat < 128 then [c.toLower]
  else if c == 'İ' then ['i', '\u0307']
  else [shifted lowerTable c]

def leadsToCased : List Char → Bool
  | [] => false
  | c :: t => if isCaseIgnorable c then leadsToCased t else isCased c

/-- `afterCased` tells whether the last character that counted has a case. -/
def lowerFrom (afterCased : Bool) : List Char → List Char
  | [] => []
  | c :: t =>
    let here :=
      if c == 'Σ' then [if afterCased && !leadsToCased t then 'ς' else 'σ'] else lowerChar c
    here ++ lowerFrom (if isCaseIgnorable c then afterCased else isCased c) t

def lower (t : List Char) : List Char :=
  lowerFrom false t

def toLower (s : String) : String :=
  String.ofList (lower s.toList)

def upperChar (c : Char) : List Char :=
  if c.toNat < 128 then [c.toUpper]
  else match upperSequences.find? (·.1 == c.toNat) with
    | some (_, ns) => ns.map Char.ofNat
    | none => [shifted upperTable c]

def upper (t : List Char) : List Char :=
  t.flatMap upperChar

def toUpper (s : String) : String :=
  String.ofList (upper s.toList)

theorem upper_append (s t : List Char) : upper (s ++ t) = upper s ++ upper t := by
  simp [upper]

/-- Whether `c` is the ASCII letter `l`, given in lower case, in either case. The long s counts
as an s and the Kelvin sign as a k. -/
def isLetterCI (l c : Char) : Bool :=
  c.toLower == l || (l == 's' && c == 'ſ') || (l == 'k' && c == '\u212A')

def afterCI? : (word text : List Char) → Option (List Char)
  | [], t => some t
  | _ :: _, [] => none
  | w :: ws, c :: t => if isLetterCI w c then afterCI? ws t else none

end CodeReview.Text
