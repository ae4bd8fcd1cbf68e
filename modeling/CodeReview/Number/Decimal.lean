import CodeReview.Number.Binary64

/-!
Decimal texts of numbers in double precision. A number is written with the fewest digits that
read back as the same number, and of those with the nearest; a decimal is read as the number
nearest to it.
-/

namespace CodeReview

structure Decimal where
  digits : Nat
  exponent : Int
  deriving DecidableEq, Repr

def digitCount (n : Nat) : Nat :=
  (Nat.toDigits 10 n).length

namespace Decimal

/-- Powers of ten beyond which a decimal is an infinity, or zero, whatever its digits. -/
def reach : Int := 400

def toBinary64 (negative : Bool) (d : Decimal) : Binary64 :=
  let size := (digitCount d.digits : Int) + d.exponent
  if d.digits = 0 then .finite negative 0
  else if reach < size then .infinite negative
  else if size < -reach then .finite negative 0
  else if 0 ≤ d.exponent then .ofRatio negative (d.digits * Nat.pow 10 d.exponent.toNat) 1
  else .ofRatio negative d.digits (Nat.pow 10 (-d.exponent).toNat)

def readsAs (units : Nat) (d : Decimal) : Bool :=
  d.toBinary64 false == .finite false units

/-- The power of ten of the leading digit of a positive number. Scaling by 10 ^ 324 makes the
least positive number greater than one. -/
def leadingExponent (units : Nat) : Int :=
  (digitCount (units * Nat.pow 10 324 / Binary64.unitsOfOne) : Int) - 325

/-- The two decimals of `n` digits next to a positive number, and whether the upper one is the
nearer (of equally near ones, the one with an even last digit). -/
def neighbours (units n : Nat) : Decimal × Decimal × Bool :=
  let e := leadingExponent units - (n - 1 : Nat)
  let num := units * Nat.pow 10 (-e).toNat
  let den := Binary64.unitsOfOne * Nat.pow 10 e.toNat
  let c := num / den
  (⟨c, e⟩, ⟨c + 1, e⟩, roundHalfEven num den != c)

def ofDigits? (units n : Nat) : Option Decimal :=
  let (below, above, up) := neighbours units n
  if readsAs units below then
    if readsAs units above && up then some above else some below
  else if readsAs units above then some above
  else none

/-- Tries `n`, `n + 1`, … digits; 17 digits always read back. -/
def shortestFrom (units : Nat) : (fuel n : Nat) → Decimal
  | 0, n => (neighbours units n).1
  | fuel + 1, n =>
    match ofDigits? units n with
    | some d => d
    | none => shortestFrom units fuel (n + 1)

def trimZeros (d : Decimal) : Decimal :=
  let ds := (Nat.toDigits 10 d.digits).reverse
  let k := (ds.takeWhile (· == '0')).length
  if k = 0 then d else ⟨d.digits / Nat.pow 10 k, d.exponent + k⟩

def shortest (units : Nat) : Decimal :=
  trimZeros (shortestFrom units 17 1)

/-- How a decimal is laid out: positional from 0.0001 up to below 10 ^ 16, with at least one
digit on each side of the point, and with an exponent of at least two digits elsewhere. -/
def layout (d : Decimal) : List Char :=
  let ds := Nat.toDigits 10 d.digits
  let point := (ds.length : Int) + d.exponent
  if -4 < point && point ≤ 16 then
    if point ≤ 0 then '0' :: '.' :: List.replicate (-point).toNat '0' ++ ds
    else if (ds.length : Int) ≤ point then
      ds ++ List.replicate d.exponent.toNat '0' ++ ['.', '0']
    else ds.take point.toNat ++ '.' :: ds.drop point.toNat
  else
    let power := point - 1
    let places := Nat.toDigits 10 power.natAbs
    ds.take 1 ++ (if ds.length = 1 then [] else '.' :: ds.drop 1)
      ++ 'e' :: (if power < 0 then '-' else '+')
      :: (if places.length < 2 then '0' :: places else places)

end Decimal

def Binary64.text : Binary64 → String
  | .nan => "nan"
  | .infinite s => if s then "-inf" else "inf"
  | .finite s u =>
    let t := if u = 0 then ['0', '.', '0'] else (Decimal.shortest u).layout
    String.ofList (if s then '-' :: t else t)

end CodeReview
