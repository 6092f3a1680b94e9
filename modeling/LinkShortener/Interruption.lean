/-!
# Interruptions

Why a caller no longer waits for an answer.
-/

namespace LinkShortener

/-- The caller withdrew the request, or its time is over. -/
inductive Interruption where
  | cancelled
  | deadlinePassed
  deriving DecidableEq

end LinkShortener
