import PageScript.Run.Traversal

/-!
# Tests

The worker of a whole test: it finds out which window is in use, runs the plugins before the test,
the events, and the plugins after it, and tells how the test ended.
-/

namespace PageScript

/-- How a run ended. -/
inductive Outcome where
  /-- Every event ran. -/
  | completed
  /-- The run was stopped. -/
  | stopped
  /-- The browser was lost, or the run made no progress. -/
  | failed (reason : String)
  deriving DecidableEq, Repr

namespace Journey

/-- Finds out which window is in use. -/
def noteWindow : Stretch Unit := do
  match ← Stretch.ofWorker (Worker.call (.untilStop none) .currentWindow) with
  | .ok (.ok handle) => modify (·.edit (.setWindow (some handle)))
  | _ => pure ()

/-- Runs the events of a test, with the plugins before them. -/
def main (setup : Setup) (events : List Event) : Stretch (Except Error Unit) := do
  noteWindow
  Stretch.fire setup { phase := .beforeTest }
  (visit setup setup.nesting events none).run

/-- Runs the events of a test with the plugins before and after them. -/
def test (setup : Setup) (events : List Event) : Stretch (Except Error Unit) := do
  let result ← main setup events
  Stretch.ofWorker ((← get).fireAfterTest setup)
  return result

end Journey

/-- The record of the log that a test begins. -/
def Setup.opening (setup : Setup) (events : List Event) : Remark :=
  .note .info .traversal "Test running"
    [("test", setup.testName), ("events", toString events.length)]

/-- What a run has come to once its events are done. -/
def Worker.conclude (result : Except Error Unit) : Worker Outcome := do
  match result with
  | .error e =>
    Worker.say (.note .error .traversal "Run failed" [("error", e.message)])
    return .failed e.message
  | .ok () => return if ← Worker.isStopped then .stopped else .completed

/-- The worker of a test that starts with a session. -/
def Setup.worker (setup : Setup) (events : List Event) (session : Session) :
    Worker Outcome := do
  Worker.say (setup.opening events)
  Worker.say (.log ("Running test '" ++ setup.testName ++ "'..."))
  let (result, _) ← (Journey.test setup events).run session
  Worker.conclude result

end PageScript
