/-!
Instants on the server's clock, to the nanosecond, in the range of calendar years from -262143 to
262142.
-/

namespace AuthServer

def nanosPerSecond : Int := 1000000000

structure Instant where
  nanos : Int
  first_le : -8334601228800 * nanosPerSecond ≤ nanos
  lt_end : nanos < 8210266876800 * nanosPerSecond
deriving DecidableEq

namespace Instant

def ofNanos? (nanos : Int) : Option Instant :=
  if within : -8334601228800 * nanosPerSecond ≤ nanos ∧ nanos < 8210266876800 * nanosPerSecond then
    some ⟨nanos, within.1, within.2⟩
  else none

def epoch : Instant := ⟨0, by decide, by decide⟩

def last : Instant := ⟨8210266876800 * nanosPerSecond - 1, by decide, by decide⟩

def seconds (instant : Instant) : Int :=
  instant.nanos / nanosPerSecond

def fraction (instant : Instant) : Nat :=
  (instant.nanos % nanosPerSecond).toNat

example : last.seconds = 8210266876799 := by decide

end Instant

structure Span where
  nanos : Int
deriving DecidableEq, Repr

namespace Span

def ofSeconds (seconds : Int) : Span := ⟨seconds * nanosPerSecond⟩

/-- Whole seconds, rounded towards zero. -/
def wholeSeconds (span : Span) : Int := span.nanos.tdiv nanosPerSecond

/-- The longest span that is stored: the largest signed 64-bit count of milliseconds. -/
def longest : Span := ⟨9223372036854775807 * 1000000⟩

def shortest : Span := ⟨-longest.nanos⟩

def ofSeconds? (seconds : Int64) : Option Span :=
  let span := ofSeconds seconds.toInt
  if shortest.nanos ≤ span.nanos ∧ span.nanos ≤ longest.nanos then some span else none

end Span

namespace Instant

def add? (instant : Instant) (span : Span) : Option Instant :=
  ofNanos? (instant.nanos + span.nanos)

end Instant

end AuthServer
