import CodeReview.Number.Binary64

/-!
JSON values. An integer and a number with a fraction or an exponent are kept apart, and an object
keeps the order in which its names first came.
-/

namespace CodeReview

inductive Json where
  | null
  | bool (b : Bool)
  | int (i : Int)
  | float (x : Binary64)
  | str (s : String)
  | arr (items : List Json)
  | obj (fields : List (String × Json))
  deriving Repr, Inhabited

namespace Json

/-- The fields after `name` has been given a value: a name that is there keeps its place. -/
def put (fields : List (String × Json)) (name : String) (value : Json) : List (String × Json) :=
  match fields with
  | [] => [(name, value)]
  | (n, v) :: fs => if n == name then (n, value) :: fs else (n, v) :: put fs name value

def field? (j : Json) (name : String) : Option Json :=
  match j with
  | .obj fields => (fields.find? (·.1 == name)).map (·.2)
  | _ => none

theorem field?_put (fields : List (String × Json)) (name : String) (value : Json) :
    (Json.obj (put fields name value)).field? name = some value := by
  simp only [field?]
  induction fields with
  | nil => simp [put]
  | cons f fs ih =>
    obtain ⟨n, v⟩ := f
    simp only [put]
    split
    · simp_all
    · next h => simpa [List.find?_cons, h] using ih

/-- The value of a name, where null counts as no value. -/
def get? (j : Json) (name : String) : Option Json :=
  match j.field? name with
  | some .null => none
  | v => v

def str? : Json → Option String
  | .str s => some s
  | _ => none

def bool? : Json → Option Bool
  | .bool b => some b
  | _ => none

def int? : Json → Option Int
  | .int i => some i
  | _ => none

def arr? : Json → Option (List Json)
  | .arr xs => some xs
  | _ => none

def items (j : Json) : List Json :=
  j.arr?.getD []

end Json

end CodeReview
