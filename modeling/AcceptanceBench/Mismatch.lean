import AcceptanceBench.Data

/-!
Why a check failed.
-/

namespace AcceptanceBench

/-- A comparison that failed, or another detail that a check gave. -/
structure Mismatch where
  operator : String
  expected : Data
  observed : Data
  message : String
  deriving Repr, DecidableEq

/-- One sentence on the mismatch: its own message if it has one, or the failed comparison. -/
def Mismatch.describe (m : Mismatch) : String :=
  if m.message = "" then
    "expected " ++ m.observed.quoted ++ " to " ++ m.operator ++ " " ++ m.expected.quoted
  else m.message ++ " (observed " ++ m.observed.quoted ++ ")"

/-- What a comparison comes to. -/
inductive Outcome where
  | holds
  | fails (m : Mismatch)
  deriving Repr, DecidableEq

end AcceptanceBench
