/-!
Regular ticks. A tick that is at most five milliseconds late does not move the
ones after it; after a longer pause the missed ticks are left out, and the next
one comes at the next multiple of the period.
-/

namespace CertRenewal

structure Schedule where
  period : Nat
  isLive : Bool
deriving DecidableEq, Repr

namespace Schedule

/-- The period that is kept when one is asked for: at least a millisecond. -/
def keptPeriod (asked : Nat) : Nat := max asked 1

/-- The lateness in milliseconds up to which no tick is left out. -/
def tolerance : Nat := 5

/-- When the tick after one that was due, and came at `now`, is due. -/
def nextDue (period due now : Nat) : Nat :=
  if due + tolerance < now then now + period - (now - due) % period else due + period

end Schedule

end CertRenewal
