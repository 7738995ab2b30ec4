import PageScript.Run.Session

/-!
# Dispatch of plugins

At each phase the active plugins that accept it run one after another, if the window in use is still
open. A plugin that fails is reported and keeps none of the later ones from running. Plugins around
events and clicks run only while the run has not been stopped. The plugins at the end of a test run
in any case, but together they have no more time than the watchdog allows.
-/

namespace PageScript

/-- How a dispatch of plugins ended. -/
inductive Dispatched where
  | finished
  | timeUp
  deriving DecidableEq, Repr

namespace Session

/-- What a plugin is shown at an occasion. -/
def pluginContext (setup : Setup) (s : Session) (element : Option Element)
    (args : List String := []) : PluginContext where
  element
  vars := s.vars
  hijacks := setup.hijacks
  testName := setup.testName
  args

/-- Whether the window in use is among the open ones; any will do if none is in use. -/
def hasWindow (s : Session) (handles : List String) : Bool :=
  match s.window with
  | some window => handles.contains window
  | none => !handles.isEmpty

/-- Tells of a plugin that has failed. -/
def tellResult (p : Plugin) : Except Error Unit → Worker Unit
  | .ok () => pure ()
  | .error e => Worker.say (.exception ("Plugin '" ++ p.name ++ "' failed") e)

/-- Runs plugins one after another until the guard ends it. -/
def runPlugins (setup : Setup) (s : Session) (g : Guard) (o : Occasion) :
    List Plugin → Worker Dispatched
  | [] => pure .finished
  | p :: ps => do
    Worker.say (.note .debug .traversal "Running plugin"
      [("plugin", p.name), ("phase", o.phase.word)])
    match ← p.run g o.phase (s.pluginContext setup o.element) with
    -- a stop leaves the plugins after this one out
    | .error .cancelled => pure .finished
    | .error .timeUp => pure .timeUp
    | .ok result =>
      tellResult p result
      runPlugins setup s g o ps

/-- Leaves plugins out since the window in use is not there. -/
def skipPlugins : Worker Dispatched := do
  Worker.say (.log "Browser window closed. Skipping plugin execution.")
  return .finished

/-- Runs the plugins that accept an occasion, if the window in use is open. -/
def dispatch (setup : Setup) (s : Session) (g : Guard) (o : Occasion) : Worker Dispatched := do
  if s.registry.isEmpty then return .finished
  match ← Worker.call g .windowHandles with
  | .error .timeUp => return .timeUp
  | .ok (.ok handles) =>
    if s.hasWindow handles then
      s.runPlugins setup g o (Registration.accepting s.registry o.phase o.tag)
    else skipPlugins
  | _ => skipPlugins

/-- Runs the plugins of an occasion, unless the run has been stopped. -/
def fire (setup : Setup) (s : Session) (o : Occasion) : Worker Unit := do
  if ← Worker.isStopped then return ()
  Worker.tell (.occasion o)
  let _ ← s.dispatch setup (.untilStop none) o
  return ()

/-- The guard of the plugins at the end of a test: those of a run that has been stopped before are
not ended by the stop. -/
def lastGuard (stopped : Bool) (limit : Limit) : Guard :=
  if stopped then .untilLimit limit else .untilStop (some limit)

/-- Runs the plugins at the end of a test. Where they take too long, the run counts as stopped from
then on, if it was not stopped before. -/
def fireAfterTest (setup : Setup) (s : Session) : Worker Unit := do
  let stopped ← Worker.isStopped
  Worker.tell (.occasion { phase := .afterTest })
  let limit ← Worker.limit setup.watchdogTimeout
  match ← s.dispatch setup (lastGuard stopped limit) { phase := .afterTest } with
  | .finished => return ()
  | .timeUp =>
    -- up to here the plugins shared the fate of the run, which now counts as stopped
    Worker.stopUnless stopped .timeLimit
    Worker.say (.error ("aftertest plugins did not finish within "
      ++ toString (Duration.secs setup.watchdogTimeout) ++ " seconds."))

end Session
end PageScript
