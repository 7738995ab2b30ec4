import PageScript.Duration

/-!
# The watchdog

Keeps the time of the last sign of progress. A known long wait may be allowed for on top of the
timeout, until the next sign of progress. Once a check has found more time gone by than allowed,
the watchdog has tripped, and it stays so whatever follows.
-/

namespace PageScript

/-- A watchdog: what it allows, when it last saw progress, and whether it has tripped. -/
structure Watchdog where
  timeout : Duration
  lastPulse : Duration
  /-- Allowed on top of the timeout until the next pulse. -/
  extension : Duration := 0
  tripped : Bool := false
  deriving DecidableEq, Repr

namespace Watchdog

/-- A watchdog made at a point of time. -/
def create (timeout now : Duration) : Watchdog :=
  { timeout, lastPulse := now }

/-- Takes note of progress. -/
def pulse (w : Watchdog) (now : Duration) : Watchdog :=
  { w with lastPulse := now, extension := 0 }

/-- Allows more time until the next pulse, in place of what was allowed before. -/
def extend (w : Watchdog) (d : Duration) : Watchdog :=
  { w with extension := d }

/-- The time since the last pulse. -/
def idle (w : Watchdog) (now : Duration) : Duration :=
  now - w.lastPulse

/-- The time that may pass after a pulse. -/
def allowance (w : Watchdog) : Duration :=
  Duration.saturatingAdd w.timeout w.extension

/-- Whether more time has passed than allowed. -/
def expired (w : Watchdog) (now : Duration) : Bool :=
  decide (w.allowance < w.idle now)

/-- Trips if the time allowed has passed. -/
def check (w : Watchdog) (now : Duration) : Watchdog :=
  { w with tripped := w.tripped || w.expired now }

@[simp] theorem tripped_pulse (w : Watchdog) (now : Duration) :
    (w.pulse now).tripped = w.tripped := rfl

@[simp] theorem tripped_extend (w : Watchdog) (d : Duration) :
    (w.extend d).tripped = w.tripped := rfl

@[simp] theorem tripped_check (w : Watchdog) (now : Duration) :
    (w.check now).tripped = (w.tripped || w.expired now) := rfl

@[simp] theorem allowance_pulse (w : Watchdog) (now : Duration) :
    (w.pulse now).allowance = Duration.saturatingAdd w.timeout 0 := rfl

end Watchdog
end PageScript
