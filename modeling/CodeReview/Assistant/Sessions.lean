/-!
Sessions, on which requests are sent. Either one session is handed in and used by all, or each
thread of work has a session of its own, from its first use to the next time that all are closed.
-/

namespace CodeReview

/-- A session: the one that was handed in, or one of those that were opened, by its number. -/
inductive Session where
  | shared
  | own (number : Nat)
  deriving DecidableEq, Repr

/-- The sessions of a client. `slots` holds what each thread has stored for its next use, `owned`
the sessions that are closed the next time, and `closings` the sessions that were closed; these two
stand in the order in which it came to pass. -/
structure Sessions where
  hasShared : Bool := false
  opened : Nat := 0
  slots : List (Nat × Nat) := []
  owned : List Nat := []
  closings : List Session := []
  deriving DecidableEq, Repr

namespace Sessions

def slot? (s : Sessions) (t : Nat) : Option Nat :=
  (s.slots.find? (·.1 == t)).map (·.2)

/-- The session that thread `t` sends its next request on. -/
def use (s : Sessions) (t : Nat) : Session × Sessions :=
  if s.hasShared then (.shared, s)
  else match s.slot? t with
    | some n => (.own n, s)
    | none =>
      (.own s.opened,
        { s with
          opened := s.opened + 1
          slots := (t, s.opened) :: s.slots
          owned := s.owned ++ [s.opened] })

def close (s : Sessions) : Sessions :=
  { s with
    slots := []
    owned := []
    closings := s.closings ++ (if s.hasShared then [.shared] else []) ++ s.owned.map .own }

def useTimes (s : Sessions) (t : Nat) : (n : Nat) → Sessions
  | 0 => s
  | n + 1 => (s.use t).2.useTimes t n

end Sessions

end CodeReview
