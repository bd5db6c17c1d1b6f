/-!
# Durations

A span of time in nanoseconds, never negative.
-/

namespace Gatehouse.Time

/-- A span of time. -/
structure Duration where
  nanos : Nat
  deriving DecidableEq, Repr, Inhabited

namespace Duration

/-- So many seconds. -/
def ofSeconds (n : Nat) : Duration := ⟨n * 1000000000⟩

/-- So many milliseconds. -/
def ofMillis (n : Nat) : Duration := ⟨n * 1000000⟩

/-- The whole milliseconds. -/
def millis (d : Duration) : Nat := d.nanos / 1000000

/-- The whole seconds. -/
def seconds (d : Duration) : Nat := d.nanos / 1000000000

@[simp] theorem seconds_ofSeconds (n : Nat) : (ofSeconds n).seconds = n := by
  simp [seconds, ofSeconds]

@[simp] theorem millis_ofSeconds (n : Nat) : (ofSeconds n).millis = 1000 * n := by
  simp only [millis, ofSeconds]; omega

theorem ofSeconds_injective {m n : Nat} (h : ofSeconds m = ofSeconds n) : m = n := by
  rw [← seconds_ofSeconds m, h, seconds_ofSeconds]

end Duration

end Gatehouse.Time
