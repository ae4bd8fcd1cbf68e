import CodeReview.Json.Value
import CodeReview.Number.Lenient

/-!
Values checked on their way in. A check of several fields reports the faults of all of them, in
the order in which the fields are declared; each fault names the place of the value in what was
given. Numbers may be given as text, and whole numbers as numbers with nothing behind the point.
-/

namespace CodeReview

inductive FieldFault where
  | missing
  | notText
  | notChoice
  | notInteger
  | unreadableInteger
  | fractionalInteger
  | integerSize
  | notFinite
  | notNumber
  | unreadableNumber
  | belowMinimum
  | aboveMaximum
  | notList
  | notRecord
  | readOnly
  deriving DecidableEq, Repr

/-- A fault and the path to it: names of fields and positions in lists. -/
structure FieldError where
  fault : FieldFault
  path : List String
  deriving DecidableEq, Repr

/-- The outcome of a check: a value, or every fault that was found. -/
inductive Checked (α : Type) where
  | valid (value : α)
  | invalid (errors : List FieldError)
  deriving DecidableEq, Repr

namespace Checked

variable {α β : Type}

def map (f : α → β) : Checked α → Checked β
  | .valid a => .valid (f a)
  | .invalid es => .invalid es

def both : Checked (α → β) → (Unit → Checked α) → Checked β
  | .valid f, x => (x ()).map f
  | .invalid es, x =>
    match x () with
    | .valid _ => .invalid es
    | .invalid es' => .invalid (es ++ es')

instance : Functor Checked := { map := map }
instance : Applicative Checked := { pure := .valid, seq := both }

def bind (x : Checked α) (f : α → Checked β) : Checked β :=
  match x with
  | .valid a => f a
  | .invalid es => .invalid es

def fail (fault : FieldFault) : Checked α :=
  .invalid [⟨fault, []⟩]

def at_ (name : String) : Checked α → Checked α
  | .valid a => .valid a
  | .invalid es => .invalid (es.map fun e => { e with path := name :: e.path })

def each (check : Json → Checked α) : (start : Nat) → List Json → Checked (List α)
  | _, [] => .valid []
  | n, x :: xs => List.cons <$> (check x).at_ (toString n) <*> each check (n + 1) xs

end Checked

namespace Check

variable {α : Type}

def text : Json → Checked String
  | .str s => .valid s
  | _ => .fail .notText

def orNull (check : Json → Checked α) : Json → Checked (Option α)
  | .null => .valid none
  | j => (check j).map some

def choice (choose? : String → Option α) : Json → Checked α
  | .str s => match choose? s with
    | some a => .valid a
    | none => .fail .notChoice
  | _ => .fail .notChoice

def integerText (s : String) : Checked Int :=
  match Lenient.readInt s with
  | .ok i => .valid i
  | .error .unreadable => .fail .unreadableInteger
  | .error .tooLong => .fail .integerSize

/-- The bound of the integers that a number with a point may stand for. -/
def sizeLimit : Int := 9223372036854775808

def integer : Json → Checked Int
  | .int i => .valid i
  | .bool b => .valid (if b then 1 else 0)
  | .float x =>
    if !x.isFinite then .fail .notFinite
    else match x.toInt? with
      | none => .fail .fractionalInteger
      | some i =>
        if -sizeLimit < i ∧ i < sizeLimit then .valid i else .fail .integerSize
  | .str s => integerText s
  | _ => .fail .notInteger

def number : Json → Checked Binary64
  | .int i =>
    let x := Binary64.ofInt i
    if x.isFinite then .valid x else .fail .notNumber
  | .float x => .valid x
  | .bool b => .valid (if b then 1 else 0)
  | .str s => match Lenient.readBinary64? s with
    | some x => .valid x
    | none => .fail .unreadableNumber
  | _ => .fail .notNumber

/-- A number that is at least zero; the number that is none is not. -/
def weight (j : Json) : Checked Binary64 :=
  (number j).bind fun x => if Binary64.le 0 x then .valid x else .fail .belowMinimum

def list (check : Json → Checked α) : Json → Checked (List α)
  | .arr xs => Checked.each check 0 xs
  | _ => .fail .notList

def required (j : Json) (name : String) (check : Json → Checked α) : Checked α :=
  Checked.at_ name <| match j.field? name with
    | some v => check v
    | none => .fail .missing

def optional (j : Json) (name : String) (default : α) (check : Json → Checked α) : Checked α :=
  match j.field? name with
  | some v => (check v).at_ name
  | none => .valid default

end Check

end CodeReview
