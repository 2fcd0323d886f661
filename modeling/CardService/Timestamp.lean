import CardService.Number.Double

/-!
# CardService — timestamps

An instant to the nanosecond, between the years -9999 and 9999. The backend gives instants as
milliseconds since the Unix epoch in a double, which are converted by way of seconds: the quotient
is rounded to a double, and that to the nearest nanosecond.
-/

namespace CardService

/-- Nanoseconds in a second. -/
def nanosPerSecond : Nat := 1000000000

/-- The nanoseconds since the epoch of the start of the year -9999. -/
def earliestNanos : Int := -377705116800 * nanosPerSecond

/-- The nanoseconds since the epoch of the end of the year 9999. -/
def latestNanos : Int := 253402300800 * nanosPerSecond - 1

/-- An instant, in nanoseconds since the Unix epoch. -/
structure Timestamp where
  nanos : Int
  inRange : earliestNanos ≤ nanos ∧ nanos ≤ latestNanos
  deriving DecidableEq

namespace Timestamp

/-- The instant some nanoseconds after the epoch. -/
def ofNanos? (nanos : Int) : Option Timestamp :=
  if h : earliestNanos ≤ nanos ∧ nanos ≤ latestNanos then some ⟨nanos, h⟩ else none

/-- The nanoseconds nearest to a number of seconds; a half goes to the even neighbour. -/
def nanosOfSeconds (seconds : Binary64) : Int :=
  let nanos := Binary64.halfEven (seconds.magnitude * nanosPerSecond) unitsPerOne
  if seconds.negative then -(nanos : Int) else nanos

/-- The instant some milliseconds after the epoch. -/
def ofEpochMs? (ms : Double) : Option Timestamp :=
  match ms.divWhole 1000 with
  | .finite seconds => ofNanos? (nanosOfSeconds seconds)
  | _ => none

/-- The milliseconds from the epoch to an instant, by way of whole seconds and a fraction. -/
def toEpochMs (t : Timestamp) : Double :=
  let seconds := Double.ofInt (t.nanos.tdiv nanosPerSecond)
  let fraction := (Double.ofInt (t.nanos.tmod nanosPerSecond)).divWhole nanosPerSecond
  (seconds.add fraction).mulWhole 1000

end Timestamp

end CardService
