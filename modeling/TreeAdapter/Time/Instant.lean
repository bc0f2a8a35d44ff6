import TreeAdapter.Number.Integer
import TreeAdapter.Time.Civil

/-!
# Instants and calendar values

An instant counts seconds since the beginning of 1970 in UTC. A calendar value is an instant with
the offset it was recorded in.
-/

namespace TreeAdapter
set_option autoImplicit false

/-- A leap second is the second before it with a billion nanoseconds more. -/
structure Instant where
  seconds : Int
  nanos : Nat
deriving DecidableEq

namespace Instant

/-- Milliseconds since the beginning of 1970, without the rest below a millisecond. -/
def millis (t : Instant) : Int :=
  t.seconds * 1000 + (t.nanos / 1000000 : Nat)

/-- First and last day of the supported years. -/
def firstDay : Int := CivilDate.toDays ⟨-262143, 1, 1⟩
def lastDay : Int := CivilDate.toDays ⟨262142, 12, 31⟩

/-- The instant `n` milliseconds after the beginning of 1970, within the supported years. -/
def ofMillis? (n : Int) : Option Instant :=
  let seconds := n / 1000
  let day := seconds / 86400
  if firstDay ≤ day ∧ day ≤ lastDay then some ⟨seconds, (n % 1000).toNat * 1000000⟩ else none

end Instant

/-- An instant and the seconds that its clock is ahead of UTC. -/
structure Calendar where
  instant : Instant
  offset : Int
deriving DecidableEq

namespace Calendar

def ofInstant (t : Instant) : Calendar :=
  ⟨t, 0⟩

/-- Calendar values are equal when their instants are, whatever the offsets. -/
def equals (a b : Calendar) : Bool :=
  decide (a.instant = b.instant)

end Calendar
end TreeAdapter
