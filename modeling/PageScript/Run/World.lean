import PageScript.Run.Outside
import PageScript.Run.Watchdog
import PageScript.Run.Worker

/-!
# The world of a run

A clock that stands still while anything can go on, the supervisor that looks at the watchdog at
regular ticks, the owner of the run who may stop it at a set time, and the outside with its state. A
worker is run against such a world, one request after another.

Time passes only where the worker waits. A wait ends when its own time has come, or at the limit of
its guard, or when the run is stopped: by the owner, or at the first tick at which the watchdog has
expired. Of things due at the same instant the owner comes first; a tick comes before the worker
only if it was planned first; and the worker's own time comes before the limit. Once the run is
stopped the supervisor is gone.
-/

namespace PageScript

/-- Something that has happened in a run. -/
inductive Happening where
  | notice (n : Notice)
  | called (c : Call)

namespace Happening

/-- A stage that the run has come to. -/
@[match_pattern] abbrev stage (s : Stage) : Happening := .notice (.stage s)

/-- A mark between the run and its supervisor. -/
@[match_pattern] abbrev mark (m : Mark) : Happening := .notice (.mark m)

end Happening

/-- The world of a run. -/
structure World (σ : Type) where
  now : Duration := 0
  /-- The supervisor's next look at the watchdog; none once the run is stopped. -/
  nextTick : Option Duration
  /-- When the owner will stop the run. -/
  stopAt : Option Duration := none
  /-- The time between two looks at the watchdog. -/
  poll : Duration
  watchdog : Watchdog
  /-- The date and time of day when the run starts. It stays what it is: a later look at the calendar in
  the same run is answered with the start, and no date passes in between. -/
  calendar : Calendar
  outside : σ
  /-- What has happened, the newest first. -/
  history : List Happening := []

/-- What stops a run while it waits. -/
inductive Alarm where
  /-- The owner stops the run. -/
  | owner (due : Duration)
  /-- The watchdog has expired. -/
  | trip (due : Duration)
  deriving DecidableEq, Repr

/-- When an alarm sounds. -/
def Alarm.due : Alarm → Duration
  | .owner t => t
  | .trip t => t

namespace World

variable {σ : Type}

def isStopped (w : World σ) : Bool :=
  w.nextTick.isNone

/-- Adds to the history. -/
def happen (h : Happening) (w : World σ) : World σ :=
  { w with history := h :: w.history }

/-- Adds a notice to the history. -/
def tell (n : Notice) (w : World σ) : World σ :=
  w.happen (.notice n)

/-- Adds something said to the history. -/
def say (r : Remark) (w : World σ) : World σ :=
  w.tell r.notice

/-- Adds a mark to the history. -/
def mark (m : Mark) (w : World σ) : World σ :=
  w.tell (.mark m)

/-- The world without an owner who may yet stop the run. -/
def withoutOwner (w : World σ) : World σ :=
  { w with stopAt := none }

/-- The world with another state of the watchdog. -/
def withWatchdog (d : Watchdog) (w : World σ) : World σ :=
  { w with watchdog := d }

/-- The world with another state of the outside. -/
def withOutside (s : σ) (w : World σ) : World σ :=
  { w with outside := s }

/-- The world at another point of time. -/
def atTime (t : Duration) (w : World σ) : World σ :=
  { w with now := t }

/-- Stops the run, if it has not been stopped before. -/
def stop (who : Stopper) (w : World σ) : World σ :=
  if w.isStopped then w else { w with nextTick := none }.mark (.stopped who w.now)

/-- The watchdog is told of progress. -/
def pulse (w : World σ) : World σ :=
  (w.withWatchdog (w.watchdog.pulse w.now)).mark (.pulsed w.now)

/-- The watchdog allows more time. -/
def extend (d : Duration) (w : World σ) : World σ :=
  (w.withWatchdog (w.watchdog.extend d)).mark (.extended d)

/-- Lets the supervisor look in vain at each tick before the given one. -/
def lookUntil (next : Duration) (w : World σ) : World σ :=
  match w.nextTick with
  | some tick =>
    if tick < next then { w with nextTick := some next }.mark (.looked tick next) else w
  | none => w

section Fields

variable (w : World σ)

@[simp] theorem isStopped_tell (n : Notice) : (w.tell n).isStopped = w.isStopped := rfl

@[simp] theorem now_tell (n : Notice) : (w.tell n).now = w.now := rfl

@[simp] theorem nextTick_tell (n : Notice) : (w.tell n).nextTick = w.nextTick := rfl

@[simp] theorem poll_tell (n : Notice) : (w.tell n).poll = w.poll := rfl

@[simp] theorem watchdog_tell (n : Notice) : (w.tell n).watchdog = w.watchdog := rfl

@[simp] theorem history_tell (n : Notice) : (w.tell n).history = .notice n :: w.history := rfl

@[simp] theorem say_eq (r : Remark) : w.say r = w.tell r.notice := rfl

@[simp] theorem mark_eq (m : Mark) : w.mark m = w.tell (.mark m) := rfl

theorem atTime_now : w.atTime w.now = w := rfl

@[simp] theorem now_atTime (t : Duration) : (w.atTime t).now = t := rfl

@[simp] theorem isStopped_atTime (t : Duration) : (w.atTime t).isStopped = w.isStopped := rfl

@[simp] theorem nextTick_atTime (t : Duration) : (w.atTime t).nextTick = w.nextTick := rfl

@[simp] theorem poll_atTime (t : Duration) : (w.atTime t).poll = w.poll := rfl

@[simp] theorem watchdog_atTime (t : Duration) : (w.atTime t).watchdog = w.watchdog := rfl

@[simp] theorem history_atTime (t : Duration) : (w.atTime t).history = w.history := rfl

@[simp] theorem isStopped_withoutOwner : (w.withoutOwner).isStopped = w.isStopped := rfl

@[simp] theorem now_withoutOwner : (w.withoutOwner).now = w.now := rfl

@[simp] theorem nextTick_withoutOwner : (w.withoutOwner).nextTick = w.nextTick := rfl

@[simp] theorem poll_withoutOwner : (w.withoutOwner).poll = w.poll := rfl

@[simp] theorem watchdog_withoutOwner : (w.withoutOwner).watchdog = w.watchdog := rfl

@[simp] theorem history_withoutOwner : (w.withoutOwner).history = w.history := rfl

@[simp] theorem isStopped_withWatchdog (d : Watchdog) :
    (w.withWatchdog d).isStopped = w.isStopped := rfl

@[simp] theorem now_withWatchdog (d : Watchdog) : (w.withWatchdog d).now = w.now := rfl

@[simp] theorem nextTick_withWatchdog (d : Watchdog) :
    (w.withWatchdog d).nextTick = w.nextTick := rfl

@[simp] theorem poll_withWatchdog (d : Watchdog) : (w.withWatchdog d).poll = w.poll := rfl

@[simp] theorem watchdog_withWatchdog (d : Watchdog) : (w.withWatchdog d).watchdog = d := rfl

@[simp] theorem history_withWatchdog (d : Watchdog) : (w.withWatchdog d).history = w.history := rfl

@[simp] theorem isStopped_withOutside (s : σ) : (w.withOutside s).isStopped = w.isStopped := rfl

@[simp] theorem now_withOutside (s : σ) : (w.withOutside s).now = w.now := rfl

@[simp] theorem nextTick_withOutside (s : σ) : (w.withOutside s).nextTick = w.nextTick := rfl

@[simp] theorem poll_withOutside (s : σ) : (w.withOutside s).poll = w.poll := rfl

@[simp] theorem watchdog_withOutside (s : σ) : (w.withOutside s).watchdog = w.watchdog := rfl

@[simp] theorem history_withOutside (s : σ) : (w.withOutside s).history = w.history := rfl

@[simp] theorem isStopped_pulse : w.pulse.isStopped = w.isStopped := rfl

@[simp] theorem now_pulse : w.pulse.now = w.now := rfl

@[simp] theorem history_pulse : w.pulse.history = .mark (.pulsed w.now) :: w.history := rfl

@[simp] theorem isStopped_extend (d : Duration) : (w.extend d).isStopped = w.isStopped := rfl

@[simp] theorem now_extend (d : Duration) : (w.extend d).now = w.now := rfl

@[simp] theorem history_extend (d : Duration) :
    (w.extend d).history = .mark (.extended d) :: w.history := rfl

@[simp] theorem isStopped_stop (who : Stopper) : (w.stop who).isStopped = true := by
  unfold stop
  split
  · assumption
  · rfl

@[simp] theorem now_stop (who : Stopper) : (w.stop who).now = w.now := by
  unfold stop; split <;> rfl

@[simp] theorem poll_stop (who : Stopper) : (w.stop who).poll = w.poll := by
  unfold stop; split <;> rfl

@[simp] theorem watchdog_stop (who : Stopper) : (w.stop who).watchdog = w.watchdog := by
  unfold stop; split <;> rfl

@[simp] theorem now_lookUntil (next : Duration) : (w.lookUntil next).now = w.now := by
  unfold lookUntil; split <;> (try split) <;> rfl

@[simp] theorem poll_lookUntil (next : Duration) : (w.lookUntil next).poll = w.poll := by
  unfold lookUntil; split <;> (try split) <;> rfl

@[simp] theorem watchdog_lookUntil (next : Duration) :
    (w.lookUntil next).watchdog = w.watchdog := by
  unfold lookUntil; split <;> (try split) <;> rfl

variable {w}

theorem nextTick_eq_none_iff : w.nextTick = none ↔ w.isStopped = true := by
  simp [isStopped]

theorem exists_nextTick (h : w.isStopped = false) : ∃ tick, w.nextTick = some tick := by
  cases hn : w.nextTick with
  | none => rw [nextTick_eq_none_iff.1 hn] at h; cases h
  | some tick => exact ⟨tick, rfl⟩

theorem lookUntil_of_isStopped (h : w.isStopped = true) (next : Duration) :
    w.lookUntil next = w := by
  simp [lookUntil, nextTick_eq_none_iff.2 h]

theorem nextTick_lookUntil {tick next : Duration} (h : w.nextTick = some tick)
    (hle : tick ≤ next) : (w.lookUntil next).nextTick = some next := by
  unfold lookUntil
  rw [h]
  dsimp only
  split
  · rfl
  · rw [h, Nat.le_antisymm hle (Nat.le_of_not_lt ‹_›)]

end Fields

/-- The first tick, from the given one on, at which the watchdog has expired if nothing happens. -/
def firstTrip (w : World σ) (tick : Duration) : Duration :=
  -- expiry is strict: a tick at the last instant allowed still passes
  let last := w.watchdog.lastPulse + w.watchdog.allowance
  if last < tick then tick else tick + ((last - tick) / w.poll + 1) * w.poll

/-- The first tick, from the given one on, that lies at a point of time or, if `past`, after it. -/
def tickFrom (w : World σ) (tick due : Duration) (past : Bool) : Duration :=
  let first := if due ≤ tick then tick else tick + (due - tick + w.poll - 1) / w.poll * w.poll
  if past && first == due then first + w.poll else first

/-- Whether a point of time lies before another one or, if `first`, at it. -/
def comesBefore (t : Duration) (first : Bool) : Option Duration → Bool
  | none => true
  | some due => t < due || (first && t == due)

/-- What stops the run before a wait is due, if anything does; `tickFirst` says whether a tick at
the very instant comes before the end of the wait. -/
def alarm? (w : World σ) (due : Option Duration) (tickFirst : Bool) : Option Alarm :=
  let owner := w.stopAt.filter fun t => comesBefore t true due
  let trip := (w.nextTick.map w.firstTrip).filter fun t => comesBefore t tickFirst due
  match owner, trip with
  | some s, some k => some (if s ≤ k then .owner s else .trip k)
  | some s, none => some (.owner s)
  | none, some k => some (.trip k)
  | none, none => none

def ownerStops (w : World σ) : World σ :=
  (w.stop .owner).withoutOwner.say (.note .info .traversal "Stop requested")

/-- The supervisor finds that the watchdog has expired, and stops the run. -/
def trip (w : World σ) : World σ :=
  ((w.withWatchdog (w.watchdog.check w.now)).stop .watchdog).say
    (.note .error .watchdog "Watchdog expired, stopping run"
      [("idle_secs", toString (Duration.secs (w.watchdog.idle w.now))),
        ("timeout_secs", toString (Duration.secs w.watchdog.timeout))])

/-- Lets a point of time come at which nothing is stopped. -/
def reach (w : World σ) (due : Duration) (tickFirst : Bool) : World σ :=
  match w.nextTick with
  | some tick => (w.lookUntil (w.tickFrom tick due tickFirst)).atTime due
  | none => w.atTime due

/-- Lets the time of an alarm come. -/
def sound (w : World σ) : Alarm → World σ
  | .owner t => (w.reach (max w.now t) false).ownerStops
  | .trip t => ((w.lookUntil t).atTime (max w.now t)).trip

@[simp] theorem now_reach (w : World σ) (due : Duration) (tickFirst : Bool) :
    (w.reach due tickFirst).now = due := by
  unfold reach; split <;> rfl

@[simp] theorem now_sound (w : World σ) (alarm : Alarm) :
    (w.sound alarm).now = max w.now alarm.due := by
  cases alarm <;> simp [sound, ownerStops, trip, Alarm.due]

@[simp] theorem isStopped_sound (w : World σ) (alarm : Alarm) :
    (w.sound alarm).isStopped = true := by
  cases alarm <;> simp [sound, ownerStops, trip]

/-- The earlier of two points of time, of which either may be missing. -/
def earlier : Option Duration → Option Duration → Option Duration
  | some a, some b => some (min a b)
  | a, none => a
  | none, b => b

/-- Whether a tick at the instant at which a wait is due comes before its end. -/
def tickFirst (w : World σ) (g : Guard) (own due : Option Duration) : Bool :=
  (own != due || w.nextTick == due) &&
    match g.limit? with
    | some l => some l.due != due || l.afterTick
    | none => true

/-- The end of a wait at which nothing has stopped the run. -/
def arrive (w : World σ) (g : Guard) (own due : Option Duration) : Option Cut × World σ :=
  match due with
  | none => (some .cancelled, w)
  | some t => (if own == due then none else some .timeUp, w.reach t (w.tickFirst g own due))

/-- Waits until its own time comes, if ever; says why the wait was given up, if it was. -/
def await (g : Guard) (own : Option Duration) (w : World σ) : Option Cut × World σ :=
  -- work that has to wait is given up before it waits, if there is reason
  if g.limit?.any fun l => l.due ≤ w.now then (some .timeUp, w)
  else if w.isStopped && g.heedsStop then (some .cancelled, w)
  else
    let due := earlier own (g.limit?.map (·.due))
    match w.alarm? due (w.tickFirst g own due) with
    | none => w.arrive g own due
    | some alarm =>
      let stopped := w.sound alarm
      -- a wait that does not heed the stop goes on as planned
      if g.heedsStop then (some .cancelled, stopped)
      else stopped.arrive g own due

/-- Sleeps for some time; no time at all is no wait. -/
def sleep (g : Guard) (d : Duration) (w : World σ) : Option Cut × World σ :=
  if d = 0 then (none, w) else w.await g (some (Duration.wake w.now d))

def hang (g : Guard) (w : World σ) : Cut × World σ :=
  let (cut, w) := w.await g none
  (cut.getD .cancelled, w)

/-- Lives through what happens while an action is under way. -/
def live (g : Guard) : List Beat → World σ → Option Cut × World σ
  | [], w => (none, w)
  | .rest d :: beats, w =>
    match w.sleep g d with
    | (none, w) => w.live g beats
    | cut => cut
  | .giveWay :: beats, w =>
    match w.await g (some w.now) with
    | (none, w) => w.live g beats
    | cut => cut
  | .stop :: beats, w => (w.stop .outside).live g beats
  | .note r :: beats, w => (w.say (.record r)).live g beats

def noteCall (w : World σ) : Action → World σ
  | .call c => w.happen (.called c)
  | _ => w

def act (o : Outside σ) (g : Guard) (a : Action) (w : World σ) : Except Cut a.Answer × World σ :=
  let conduct := o a w.outside
  match ((w.noteCall a).withOutside conduct.start).live g conduct.beats with
  | (some cut, w) => (.error cut, w)
  | (none, w) =>
    match conduct.ending with
    | some (answer, s) => (.ok answer, w.withOutside s)
    | none =>
      -- there is no answer, so the wait ends only where it is given up
      let (cut, w) := w.hang g
      (.error cut, w)

def step (o : Outside σ) (g : Guard) (w : World σ) : (s : Step) → Except Cut s.Answer × World σ
  | .act a => w.act o g a
  | .sleep d =>
    match w.sleep g d with
    | (none, w) => (.ok (), w)
    | (some cut, w) => (.error cut, w)
  | .forever =>
    let (cut, w) := w.hang g
    (.error cut, w)

def limit (w : World σ) (d : Duration) : Limit :=
  let due := Duration.after w.now d
  { due, afterTick := w.nextTick == some due }

def answer (o : Outside σ) (w : World σ) : (r : Request) → Option (r.Answer × World σ)
  | .step g s => some (w.step o g s)
  | .say r => some ((), w.say r)
  | .tell s => some ((), w.tell (.stage s))
  | .stop who => some ((), w.stop (.inside who))
  | .isStopped => some (w.isStopped, w)
  | .pulse => some ((), w.pulse)
  | .extend d => some ((), w.extend d)
  | .now => some (w.now, w)
  | .calendar => some (w.calendar, w)
  | .limit d => some (w.limit d, w)
  | .tooDeep => none

/-- Runs a worker; there is no result if scripts include each other too deeply. -/
def run {α : Type} (o : Outside σ) : Worker α → World σ → Option (α × World σ)
  | .done a, w => some (a, w)
  | .ask r next, w =>
    match w.answer o r with
    | some (x, w) => run o (next x) w
    | none => none

@[simp] theorem run_done {α : Type} (o : Outside σ) (a : α) (w : World σ) :
    run o (.done a) w = some (a, w) := rfl

theorem run_ask {α : Type} (o : Outside σ) (r : Request) (next : r.Answer → Worker α)
    (w : World σ) :
    run o (.ask r next) w = (w.answer o r).bind fun (x, w) => run o (next x) w := by
  rw [run]
  cases w.answer o r <;> rfl

/-- A worker that goes on from another one starts in the world that the other one leaves. -/
theorem run_bind {α β : Type} (o : Outside σ) (p : Worker α) (f : α → Worker β) (w : World σ) :
    run o (p >>= f) w = (run o p w).bind fun (a, w) => run o (f a) w := by
  induction p generalizing w with
  | done a => rfl
  | ask r next ih =>
    rw [Program.ask_bind, run_ask, run_ask]
    cases w.answer o r with
    | none => rfl
    | some x => exact ih x.1 x.2

/-! ## What has happened -/

/-- The notices so far, in order. -/
def notices (w : World σ) : List Notice :=
  w.history.reverse.filterMap fun
    | .notice n => some n
    | .called _ => none

/-- The reports so far, in order. -/
def reports (w : World σ) : List Report :=
  w.notices.filterMap Notice.report?

/-- The records for the log so far, in order. -/
def records (w : World σ) : List Record :=
  w.notices.filterMap Notice.record?

/-- The counts of the reports so far. -/
def summary (w : World σ) : Summary :=
  .ofReports w.reports

end World
end PageScript
