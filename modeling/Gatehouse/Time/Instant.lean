import Gatehouse.Time.Calendar

/-!
# Instants

A point in time is a number of whole seconds since 1970-01-01T00:00:00Z and a number of nanoseconds
within the second; during a leap second the latter passes a thousand million. Instants lie in the
years -262143 to 262142 (`Instant.inRange`).
-/

namespace Gatehouse.Time

/-- A thousand million: the nanoseconds of a second. -/
def nanosPerSecond : Nat := 1000000000

/-- The seconds of a day. -/
def secondsPerDay : Int := 86400

/-- A point in time. -/
structure Instant where
  /-- Whole seconds since the epoch, rounded down. -/
  seconds : Int
  /-- Nanoseconds within the second; from `nanosPerSecond` on during a leap second. -/
  nanos : Nat
  deriving DecidableEq, Repr, Inhabited

namespace Instant

/-- The first second that has a date. -/
def minSeconds : Int := -8334601228800

/-- The last second that has a date. -/
def maxSeconds : Int := 8210266876799

/-- Whether a number of seconds has a date. -/
def inRange (seconds : Int) : Bool :=
  minSeconds ≤ seconds && seconds ≤ maxSeconds

/-- The instant at a whole second, if it has a date. -/
def ofSeconds? (seconds : Int) : Option Instant :=
  if inRange seconds then some ⟨seconds, 0⟩ else none

/-- The instant a number of whole seconds later; a leap second that is left ends as the second
before it. `none` if the sum has no date. -/
def addSeconds? (t : Instant) (n : Nat) : Option Instant :=
  let nanos := if nanosPerSecond ≤ t.nanos ∧ 0 < n then t.nanos - nanosPerSecond else t.nanos
  if inRange (t.seconds + n) then some ⟨t.seconds + n, nanos⟩ else none

/-- The second of the day. -/
def secondOfDay (t : Instant) : Int :=
  t.seconds % secondsPerDay

/-- The time from one instant to a later one in nanoseconds. A leap second counts when the later
time of day is past it, and when the earlier one lies in it only by what is left of it. -/
def nanosSince (later earlier : Instant) : Int :=
  let leap : Int :=
    if earlier.secondOfDay < later.secondOfDay ∧ nanosPerSecond ≤ earlier.nanos then 1
    else if later.secondOfDay < earlier.secondOfDay ∧ nanosPerSecond ≤ later.nanos then -1
    else 0
  (later.seconds - earlier.seconds + leap) * nanosPerSecond + later.nanos - earlier.nanos

/-- Whole milliseconds from one instant to a later one, rounded toward zero. -/
def millisSince (later earlier : Instant) : Int :=
  (nanosSince later earlier).tdiv 1000000

theorem seconds_addSeconds? {t u : Instant} {n : Nat} (h : t.addSeconds? n = some u) :
    u.seconds = t.seconds + n := by
  unfold addSeconds? at h
  simp only [Option.ite_none_right_eq_some, Option.some.injEq] at h
  rw [← h.2]

end Instant

end Gatehouse.Time
