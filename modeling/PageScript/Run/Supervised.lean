import PageScript.Run.Test
import PageScript.Run.World

/-!
# Supervised runs

A run from its start to the answer that its owner gets. The supervisor looks at the watchdog for the
first time before the worker begins. Until the owner gets round to waiting for the run, the
supervisor goes on, even if the worker is done. A watchdog that has tripped makes the run a failed
one, whatever the worker came to.
-/

namespace PageScript

/-- A run that has ended. -/
structure Ended (σ : Type) where
  outcome : Outcome
  /-- Whether the worker was done when the owner stopped the run, if the owner did. -/
  doneAtStop : Option Bool
  world : World σ

namespace World

variable {σ : Type}

/-- The world at the very start of a run, which is a sign of progress. -/
def dawn (setup : Setup) (calendar : Calendar) (stopAt : Option Duration) (outside : σ) :
    World σ where
  nextTick := some 0
  stopAt
  poll := setup.watchdogPoll
  watchdog := .create setup.watchdogTimeout 0
  calendar
  outside
  history := [.notice (.mark (.pulsed 0))]

/-- The world in which the worker begins: the supervisor has looked for the first time, unless the
owner has stopped the run at once. -/
def start (setup : Setup) (calendar : Calendar) (stopAt : Option Duration) (outside : σ) :
    World σ :=
  let w := dawn setup calendar stopAt outside
  if stopAt == some 0 then w.ownerStops else w.lookUntil setup.watchdogPoll

/-- Lets a tick that is due have its effect. -/
def settle (w : World σ) : World σ :=
  match w.nextTick with
  | some t =>
    if t ≤ w.now then
      if w.watchdog.expired w.now then w.trip else w.reach w.now true
    else w
  | none => w

/-- Lets the owner stop a run whose worker is done, if the owner is to stop it. -/
def awaitOwner (w : World σ) : World σ :=
  match w.stopAt with
  | none => w
  | some s =>
    -- the supervisor looks on until the owner comes
    match w.alarm? none true with
    | some (.trip k) => ((w.sound (.trip k)).atTime (max w.now s)).ownerStops
    | _ => w.sound (.owner s)

/-- What the owner is told. -/
def verdict (w : World σ) (outcome : Outcome) : Outcome :=
  if w.watchdog.tripped then
    .failed (Error.watchdogExpired (Duration.secs w.watchdog.timeout)).message
  else outcome

/-- Ends a run whose worker is done. -/
def conclude (owned : Bool) (outcome : Outcome) (w : World σ) : Ended σ :=
  let doneAtStop := if owned then some w.stopAt.isSome else none
  let world := w.settle.awaitOwner
  { outcome := world.verdict outcome, doneAtStop, world }

end World

/-- Runs a test; there is no result if scripts include each other too deeply. -/
def Setup.run {σ : Type} (setup : Setup) (o : Outside σ) (calendar : Calendar)
    (stopAt : Option Duration) (events : List Event) (outside : σ) : Option (Ended σ) :=
  let worker := setup.worker events (setup.session calendar)
  let start := World.start setup calendar stopAt outside
  (World.run o worker start).map fun (outcome, w) => w.conclude stopAt.isSome outcome

end PageScript
