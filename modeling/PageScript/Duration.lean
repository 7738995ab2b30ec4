/-!
# Durations

Lengths of time and points on a run's clock, in nanoseconds. The longest duration is the one whose
whole seconds just fit 64 bits; sums of durations stop there. The clock itself counts from the
start of a run and covers fewer seconds, so a point too far off is replaced by one thirty years
ahead. A sleep ends at a point of the clock that can still be counted in milliseconds.
-/

namespace PageScript

/-- A length of time, or a point of time counted from the start of a run, in nanoseconds. -/
abbrev Duration := Nat

namespace Duration

/-- Whole seconds. -/
def ofSecs (n : Nat) : Duration := n * 1000000000

/-- Whole milliseconds. -/
def ofMillis (n : Nat) : Duration := n * 1000000

def longest : Duration := Nat.pow 2 64 * 1000000000 - 1

/-- The whole seconds of a duration. -/
def secs (d : Duration) : Nat := d / 1000000000

/-- The whole milliseconds of a duration. -/
def millis (d : Duration) : Nat := d / 1000000

/-- The sum of two durations, which stops at the longest one. -/
def saturatingAdd (a b : Duration) : Duration := min (a + b) longest

/-- The first point of time that lies beyond the clock. -/
def clockEnd : Duration := ofSecs (Nat.pow 2 63 - 1)

/-- What stands in for a point of time that lies beyond the clock. -/
def thirtyYears : Duration := ofSecs (86400 * 365 * 30)

/-- The point of time `d` after `now`. -/
def after (now d : Duration) : Duration :=
  if now + d < clockEnd then now + d else now + thirtyYears

/-- The last point of time at which a sleep may end: the milliseconds since the start of the run are
counted in 64 bits, and two of the numbers are set aside. -/
def sleepsEnd : Duration := ofMillis (Nat.pow 2 64 - 3)

/-- When a sleep of length `d` is over that begins now. -/
def wake (now d : Duration) : Duration := max now (min (after now d) sleepsEnd)

end Duration
end PageScript
