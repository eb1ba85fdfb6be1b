/-!
Instants and spans of time as whole nanoseconds, kept exactly.
An instant counts from 1970-01-01T00:00:00Z and may lie before it; the clock of
the program can name the instants from `Instant.earliest` to `Instant.latest`,
those whose whole seconds fit in 64 bits with a sign.
-/

namespace CertRenewal

structure Span where
  nanos : Nat
deriving DecidableEq, Repr, Inhabited

namespace Span

def zero : Span := ⟨0⟩

def ofSeconds (seconds : Nat) : Span := ⟨seconds * 1000000000⟩

def ofMillis (millis : Nat) : Span := ⟨millis * 1000000⟩

def wholeSeconds (span : Span) : Nat := span.nanos / 1000000000

/-- The nanoseconds beyond the last full second. -/
def fraction (span : Span) : Nat := span.nanos % 1000000000

theorem wholeSeconds_ofSeconds (seconds : Nat) : (ofSeconds seconds).wholeSeconds = seconds := by
  simp [ofSeconds, wholeSeconds]

end Span

/-- A moment, in nanoseconds since the epoch. -/
structure Instant where
  nanos : Int
deriving DecidableEq, Repr, Inhabited

namespace Instant

def epoch : Instant := ⟨0⟩

/-- The first instant whose whole seconds fit in 64 bits with a sign. -/
def earliest : Instant := ⟨-9223372036854775808 * 1000000000⟩

/-- The last instant whose whole seconds fit in 64 bits with a sign. -/
def latest : Instant := ⟨9223372036854775807 * 1000000000 + 999999999⟩

def after (instant : Instant) (span : Span) : Instant := ⟨instant.nanos + span.nanos⟩

def before (instant : Instant) (span : Span) : Instant := ⟨instant.nanos - span.nanos⟩

/-- The moment one span earlier, as long as the clock can still name it. -/
def before? (instant : Instant) (span : Span) : Option Instant :=
  if earliest.nanos ≤ (instant.before span).nanos then some (instant.before span) else none

/-- The time from the first instant to the second, nothing when that one is past. -/
def spanTo (start finish : Instant) : Span := ⟨(finish.nanos - start.nanos).toNat⟩

/-- The whole seconds since the epoch, rounded towards the past. -/
def seconds (instant : Instant) : Int := instant.nanos / 1000000000

def fraction (instant : Instant) : Nat := (instant.nanos % 1000000000).toNat

/-- A time given in seconds since the epoch, as long as the clock can name it. -/
def ofEpochSeconds? (count : Nat) : Option Instant :=
  if count ≤ 9223372036854775807 then some ⟨count * 1000000000⟩ else none

/-- Whole milliseconds since the epoch in 64 bits: none before it, and the low
64 bits of a count that is larger. -/
def epochMillis (instant : Instant) : Nat :=
  instant.nanos.toNat / 1000000 % 18446744073709551616

def ofEpochMillis (millis : Nat) : Instant := ⟨millis * 1000000⟩

end Instant

instance : LE Instant := ⟨fun first second => first.nanos ≤ second.nanos⟩
instance : LT Instant := ⟨fun first second => first.nanos < second.nanos⟩
instance (first second : Instant) : Decidable (first ≤ second) :=
  inferInstanceAs (Decidable (first.nanos ≤ second.nanos))
instance (first second : Instant) : Decidable (first < second) :=
  inferInstanceAs (Decidable (first.nanos < second.nanos))

end CertRenewal
