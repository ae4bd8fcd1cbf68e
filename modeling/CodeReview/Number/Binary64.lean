/-!
Numbers in double precision: weights, penalties, time limits and temperatures. A finite number is
a sign and a count of the least positive number, 2⁻¹⁰⁷⁴, so that every operation is exact
arithmetic on natural numbers followed by one rounding, to the nearest number of the format and to
the even one of two equally near.
-/

namespace CodeReview

def roundHalfEven (num den : Nat) : Nat :=
  let q := num / den
  let r := 2 * (num % den)
  if r < den then q else if den < r then q + 1 else if q % 2 = 0 then q else q + 1

theorem roundHalfEven_mul (k den : Nat) (h : 0 < den) : roundHalfEven (k * den) den = k := by
  simp [roundHalfEven, Nat.mul_div_cancel _ h, h]

/-- A number in double precision. The magnitude of a finite one is `units` times 2⁻¹⁰⁷⁴. -/
inductive Binary64 where
  | nan
  | infinite (negative : Bool)
  | finite (negative : Bool) (units : Nat)
  deriving DecidableEq, Repr

namespace Binary64

def unitsOfOne : Nat := Nat.pow 2 1074

def unitsLimit : Nat := Nat.pow 2 2098

/-- The distance between neighbours of the format around `q` least units: 53 bits are kept. -/
def spacing (q : Nat) : Nat := Nat.pow 2 (q.log2 - 52)

/-- The magnitude of the format nearest to `num / den` least units, without an upper limit. -/
def roundUnits (num den : Nat) : Nat :=
  let g := spacing (num / den)
  roundHalfEven num (den * g) * g

def ofUnits (negative : Bool) (num den : Nat) : Binary64 :=
  let u := roundUnits num den
  if u < unitsLimit then .finite negative u else .infinite negative

def ofRatio (negative : Bool) (num den : Nat) : Binary64 :=
  ofUnits negative (num * unitsOfOne) den

def ofNat (n : Nat) : Binary64 :=
  ofRatio false n 1

def ofInt (i : Int) : Binary64 :=
  ofRatio (i < 0) i.natAbs 1

instance (n : Nat) : OfNat Binary64 n := ⟨ofNat n⟩

def isFinite : Binary64 → Bool
  | .finite _ _ => true
  | _ => false

def signed (negative : Bool) (units : Nat) : Int :=
  if negative then -units else units

def neg : Binary64 → Binary64
  | .nan => .nan
  | .infinite s => .infinite !s
  | .finite s u => .finite (!s) u

/-- The rounded sum. Opposite infinities have none, and a sum of zero is negative only if both
parts are. -/
def add : Binary64 → Binary64 → Binary64
  | .nan, _ => .nan
  | _, .nan => .nan
  | .infinite s, .infinite t => if s = t then .infinite s else .nan
  | .infinite s, .finite _ _ => .infinite s
  | .finite _ _, .infinite t => .infinite t
  | .finite s u, .finite t v =>
    let z := signed s u + signed t v
    if z = 0 then .finite (s && t) 0 else ofUnits (z < 0) z.natAbs 1

def sub (x y : Binary64) : Binary64 :=
  x.add y.neg

/-- The rounded product. An infinity times zero has none. -/
def mul : Binary64 → Binary64 → Binary64
  | .nan, _ => .nan
  | _, .nan => .nan
  | .infinite s, .infinite t => .infinite (s != t)
  | .infinite s, .finite t v => if v = 0 then .nan else .infinite (s != t)
  | .finite s u, .infinite t => if u = 0 then .nan else .infinite (s != t)
  | .finite s u, .finite t v => ofUnits (s != t) (u * v) unitsOfOne

instance : Add Binary64 := ⟨add⟩
instance : Sub Binary64 := ⟨sub⟩
instance : Mul Binary64 := ⟨mul⟩
instance : Neg Binary64 := ⟨neg⟩

/-- The order of the real numbers and the infinities. No comparison with the number that is none
holds, and the two zeros are equal. -/
def le : Binary64 → Binary64 → Bool
  | .nan, _ => false
  | _, .nan => false
  | .infinite true, _ => true
  | _, .infinite false => true
  | .infinite false, _ => false
  | _, .infinite true => false
  | .finite s u, .finite t v => signed s u ≤ signed t v

def lt (x y : Binary64) : Bool :=
  x.le y && !y.le x

inductive NotInteger where
  | nan
  | infinite
  deriving DecidableEq, Repr

def NotInteger.message : NotInteger → String
  | .nan => "cannot convert float NaN to integer"
  | .infinite => "cannot convert float infinity to integer"

def round : Binary64 → Except NotInteger Int
  | .nan => .error .nan
  | .infinite _ => .error .infinite
  | .finite s u => .ok (signed s (roundHalfEven u unitsOfOne))

def toInt? : Binary64 → Option Int
  | .finite s u =>
    if u % unitsOfOne = 0 then some (signed s (u / unitsOfOne)) else none
  | _ => none

end Binary64

end CodeReview
