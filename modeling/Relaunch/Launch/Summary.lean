/-!
# Launch/Summary — how a batch of launches went
-/

namespace Relaunch

structure Summary where
  submitted : Nat := 0
  succeeded : Nat := 0
  failed : Nat := 0
deriving DecidableEq, Repr, Inhabited

/-- Whether one launch succeeded. -/
inductive Outcome where
  | succeeded
  | failed
deriving DecidableEq, Repr

/-- A summary with one more outcome. -/
def Summary.add (s : Summary) : Outcome → Summary
  | .succeeded => { s with succeeded := s.succeeded + 1 }
  | .failed => { s with failed := s.failed + 1 }

end Relaunch
