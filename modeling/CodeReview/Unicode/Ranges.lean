/-!
Sorted tables of code points, searched by halving. A table lists disjoint closed intervals in
ascending order; `Table.find?` returns the interval that holds a code point.
-/

namespace CodeReview.Unicode

/-- A closed interval of code points, of which every `step`-th belongs to it, counted from
`first`; `shift` is what a mapping adds to each member. -/
structure Run where
  first : Nat
  last : Nat
  step : Nat := 1
  shift : Int := 0
  deriving DecidableEq, Repr

def Run.holds (r : Run) (n : Nat) : Bool :=
  r.first ≤ n && n ≤ r.last && (n - r.first) % r.step == 0

/-- The entry of a sorted table whose interval holds `n`, looked for between the positions `lo`
and `hi`. Each round halves the distance, so a fuel above its logarithm is never used up. -/
def searchRun (table : Array Run) (n : Nat) : (fuel lo hi : Nat) → Option Run
  | 0, _, _ => none
  | fuel + 1, lo, hi =>
    if lo < hi then
      let mid := (lo + hi) / 2
      match table[mid]? with
      | none => none
      | some r =>
        if n < r.first then searchRun table n fuel lo mid
        else if r.last < n then searchRun table n fuel (mid + 1) hi
        else if r.holds n then some r else none
    else none

def findRun (table : Array Run) (n : Nat) : Option Run :=
  searchRun table n (table.size.log2 + 2) 0 table.size

def inTable (table : Array Run) (n : Nat) : Bool :=
  (findRun table n).isSome

theorem holds_of_searchRun {table : Array Run} {n fuel lo hi : Nat} {r : Run}
    (h : searchRun table n fuel lo hi = some r) : r.holds n = true := by
  induction fuel generalizing lo hi with
  | zero => simp [searchRun] at h
  | succ fuel ih =>
    simp only [searchRun] at h
    split at h
    · split at h
      · simp at h
      · split at h
        · exact ih h
        · split at h
          · exact ih h
          · split at h
            · simp_all
            · simp at h
    · simp at h

end CodeReview.Unicode
