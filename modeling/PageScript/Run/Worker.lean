import PageScript.Calendar
import PageScript.Program
import PageScript.Report.Notice
import PageScript.Run.Action

/-!
# Workers and tasks

A worker is the program of one run, and a task is the program of one plugin. What either may do is
what it may ask for. A task acts, sleeps, says something, and may ask the run to stop. A worker does
all this under a guard, which says when a step is given up; it may also pulse the watchdog, ask for
the time, and see whether the run has been stopped.

A step is given up only where it has to wait: a step that is answered at once is answered even if
the run has been stopped in the meantime.
-/

namespace PageScript

/-- A step that may take time. -/
inductive Step where
  | act (a : Action)
  | sleep (d : Duration)
  /-- Waits for ever. -/
  | forever

@[reducible] def Step.Answer : Step → Type
  | .act a => a.Answer
  | .sleep _ => Unit
  | .forever => Empty

/-- What a plugin may do. -/
inductive Deed where
  | step (s : Step)
  | say (r : Remark)
  | stop

@[reducible] def Deed.Answer : Deed → Type
  | .step s => s.Answer
  | .say _ => Unit
  | .stop => Unit

/-- The program of a plugin. -/
abbrev Task (α : Type) := Program Deed Deed.Answer α

/-- A point of time at which work is given up. -/
structure Limit where
  due : Duration
  /-- Whether the supervisor's look at that very instant was planned before the limit was set. -/
  afterTick : Bool
  deriving DecidableEq, Repr

/-- When a step is given up. -/
inductive Guard where
  /-- When the run is stopped, or at the limit if there is one. -/
  | untilStop (limit : Option Limit)
  /-- At the limit, whether the run is stopped or not. -/
  | untilLimit (limit : Limit)
  deriving DecidableEq, Repr

namespace Guard

def limit? : Guard → Option Limit
  | .untilStop l => l
  | .untilLimit l => some l

/-- Whether a stop of the run ends the step. -/
def heedsStop : Guard → Bool
  | .untilStop _ => true
  | .untilLimit _ => false

end Guard

/-- Why a step was given up. -/
inductive Cut where
  | cancelled
  | timeUp
  deriving DecidableEq, Repr

/-- What a worker may ask for. -/
inductive Request where
  | step (g : Guard) (s : Step)
  | say (r : Remark)
  | tell (s : Stage)
  /-- Stops the run. -/
  | stop (who : Insider)
  /-- Whether the run has been stopped. -/
  | isStopped
  /-- Tells the watchdog of progress. -/
  | pulse
  /-- Lets the watchdog allow for a known wait. -/
  | extend (d : Duration)
  | now
  | calendar
  /-- A limit that lies some time ahead. -/
  | limit (d : Duration)
  /-- Scripts include each other too deeply to go on. -/
  | tooDeep

@[reducible] def Request.Answer : Request → Type
  | .step _ s => Except Cut s.Answer
  | .say _ | .tell _ | .stop _ | .pulse | .extend _ => Unit
  | .isStopped => Bool
  | .now => Duration
  | .calendar => Calendar
  | .limit _ => Limit
  | .tooDeep => Empty

/-- The program of a run. -/
abbrev Worker (α : Type) := Program Request Request.Answer α

namespace Task

def step (s : Step) : Task s.Answer := Program.request (Deed.step s)

/-- Acts on the outside. -/
def act (a : Action) : Task a.Answer := step (.act a)

def call (c : Call) : Task (Except BrowserError c.Answer) := act (.call c)

/-- Says something. -/
def say (r : Remark) : Task Unit := Program.request (Deed.say r)

/-- Asks the run to stop. -/
def stop : Task Unit := Program.request Deed.stop

end Task

namespace Worker

def step (g : Guard) (s : Step) : Worker (Except Cut s.Answer) := Program.request (Request.step g s)

def say (r : Remark) : Worker Unit := Program.request (Request.say r)

def tell (s : Stage) : Worker Unit := Program.request (Request.tell s)

def stop (who : Insider) : Worker Unit := Program.request (Request.stop who)

/-- Stops the run, unless it has been stopped before. -/
def stopUnless (stopped : Bool) (who : Insider) : Worker Unit :=
  if stopped then pure () else stop who

def isStopped : Worker Bool := Program.request Request.isStopped

def pulse : Worker Unit := Program.request Request.pulse

def extend (d : Duration) : Worker Unit := Program.request (Request.extend d)

/-- The time. -/
def now : Worker Duration := Program.request Request.now

/-- The date and the time of day. -/
def calendar : Worker Calendar := Program.request Request.calendar

def limit (d : Duration) : Worker Limit := Program.request (Request.limit d)

/-- Gives the run up. -/
def giveUp {α : Type} : Worker α := Program.ask Request.tooDeep fun never => nomatch never

/-- Does what is under a guard, unless a stop that the guard heeds has come before. -/
def unlessStopped {α : Type} (g : Guard) (w : Worker (Except Cut α)) : Worker (Except Cut α) := do
  let stopped ← isStopped
  if g.heedsStop && stopped then pure (.error .cancelled) else w

/-- Takes a step under a guard, unless a stop that the guard heeds has come before. -/
def guarded (g : Guard) (s : Step) : Worker (Except Cut s.Answer) :=
  unlessStopped g (step g s)

def call (g : Guard) (c : Call) : Worker (Except Cut (Except BrowserError c.Answer)) :=
  guarded g (.act (.call c))

end Worker

/-- A task as part of a worker, with every step under a guard; it ends where a step is given up. -/
def Task.under {α : Type} (g : Guard) : Task α → Worker (Except Cut α)
  | .done a => pure (.ok a)
  | .ask (.step s) next => do
    match ← Worker.step g s with
    | .ok x => Task.under g (next x)
    | .error c => pure (.error c)
  | .ask (.say r) next => do
    Worker.say r
    Task.under g (next ())
  | .ask .stop next => do
    Worker.stop .plugin
    Task.under g (next ())

end PageScript
