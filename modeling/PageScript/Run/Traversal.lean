import PageScript.Run.Passage

/-!
# Traversal

Events run depth first and from left to right. An event is carried out; then comes what belongs to
it, the rows of a table or the events of an included script; then its children, and what restores
the context of the browser. An event that fails is reported and its descendants are left out, but
the events after it run all the same. Only the loss of the browser ends the traversal, and it is
reported once. Once the run is stopped no event and no row is begun.

Scripts that include each other are followed to a given depth, at which the run is given up.
-/

namespace PageScript

/-- A part of the traversal; the error, which has been reported, ends the run. -/
abbrev Journey (α : Type) := ExceptT Error Stretch α

namespace Journey

/-- Part of a traversal that the session has no share in. -/
def ofWorker {α : Type} (w : Worker α) : Journey α :=
  ExceptT.lift (Stretch.ofWorker w)

def tell (s : Stage) : Journey Unit := ofWorker (Worker.tell s)

def say (r : Remark) : Journey Unit := ofWorker (Worker.say r)

/-- Takes part of an event, whatever its end. -/
def attempt {ε α : Type} (p : ExceptT ε Stretch α) : Journey (Except ε α) :=
  ExceptT.lift p.run

def pulse : Journey Unit := ofWorker Worker.pulse

/-- Reports the failure of an event; the loss of the browser ends the traversal. -/
def report (event : Event) (failure : Failure) : Journey Unit := do
  tell (.failed event failure)
  match failure with
  | .abort => say (.log (event.name ++ " event aborted."))
  | .hidden =>
    if event.required then say (.error "Element is not visible")
    else say (.log "Element is not visible, but required = false")
  | .fault e => say (.exception "Exception during event execution" e)
  | .lost e =>
    say (.exception "Browser session lost" e)
    throw e
  | .halted e => throw e

end Journey

namespace Passage

/-- Restores the context of the browser. -/
def restore (setup : Setup) : Restore → Passage Unit
  | .nothing => pure ()
  | .defaultContent => act setup do
    Act.log "Switching back to default frame."
    Act.call .switchToDefaultContent
  | .window handle => act setup do
    Act.log ("Switching back to window '" ++ handle ++ "'.")
    Act.call (.switchToWindow handle)
    Act.edit (.setWindow (some handle))

/-- Carries out an event and tells what it has come to. -/
def openEvent (setup : Setup) (event : Event) (parent : Option Element) : Passage Opened := do
  let result ← ExceptT.lift (carryOut setup event parent).run
  tell (.carriedOut event result)
  ExceptT.mk (pure result)

end Passage

/-- A stretch of a run that belongs to one event and to those within it. -/
abbrev Detour (α : Type) := ExceptT Failure Stretch α

namespace Detour

/-- What an event does itself, as part of all that belongs to it. -/
def ofPassage {α : Type} (p : Passage α) : Detour α :=
  ExceptT.mk (Except.mapError .own <$> p.run)

def ofWorker {α : Type} (w : Worker α) : Detour α :=
  ExceptT.lift (Stretch.ofWorker w)

/-- Part of the traversal within an event, whatever its end. -/
def within {α : Type} (j : Journey α) : Detour (Except Error α) :=
  ExceptT.lift j.run

/-- Goes on after part of the traversal; where that was ended, so is the event. -/
def orHalt : Except Error Unit → Detour Unit
  | .ok () => pure ()
  | .error e => throw (.halted e)

/-- Enters the scope of a row and binds its cells. -/
def enterRow (cells : Row) : Detour Unit := do
  ofWorker (Worker.tell (.row cells))
  modify fun s => { s with vars := cells.foldl (fun v c => v.put c.1 c.2) s.vars.push }

/-- Leaves the scope of a row. -/
def leaveRow : Detour Unit := do
  match (← get).vars.pop with
  | .ok vars => modify fun s => { s with vars }
  | .error e => throw (.ofError e)

/-- Runs the children of a table event for each row, until the run is stopped. -/
def forRows (children : Journey Unit) : List Row → Detour Unit
  | [] => pure ()
  | cells :: rows => do
    if ← ofWorker Worker.isStopped then return ()
    enterRow cells
    let result ← within children
    -- the scope is left also where the traversal is at its end
    leaveRow
    orHalt result
    forRows children rows

/-- Runs what belongs to an event and comes before its children. -/
def followInner (visit : List Event → Option Element → Journey Unit) (children : Journey Unit)
    (parent : Option Element) : Inner → Detour Unit
  | .nothing => pure ()
  | .rows rows => forRows children rows
  | .events events => do orHalt (← within (visit events parent))

/-- Carries out an event and runs what belongs to it and comes before its children. -/
def opening (setup : Setup) (visit : List Event → Option Element → Journey Unit)
    (inside : Journey Unit) (event : Event) (parent : Option Element) : Detour Opened := do
  let opened ← ofPassage (Passage.openEvent setup event parent)
  followInner visit inside parent opened.inner
  return opened

end Detour

/-- Whether the children of an event are run once it has been carried out, and not by itself. -/
def Event.descends (event : Event) : Bool :=
  !event.children.isEmpty && !event.kind.can .ownsChildren

namespace Journey

/-- Restores the context of the browser after the children of an event. -/
def leave (setup : Setup) (event : Event) (r : Restore) : Journey Unit := do
  match ← attempt (Passage.restore setup r) with
  | .error mishap => report event (.own mishap)
  | .ok () => pure ()

/-- Goes on after an event has been carried out: `below` runs its children below the element it has
found, which is the result. -/
def descend (setup : Setup) (below : Option Element → Journey Unit) (event : Event) :
    Except Failure Opened → Journey (Option Element)
  | .error failure => do
    report event failure
    return none
  | .ok opened => do
    -- the end of the traversal below passes by what comes next
    if event.descends then below opened.element
    leave setup event opened.restore
    return opened.element

/-- Ends an event, with the element it was carried out on. -/
def finish (setup : Setup) (event : Event) (element : Option Element) : Journey Unit := do
  pulse
  tell (.finished event element)
  ExceptT.lift (Stretch.fire setup { phase := .afterEvent, event := some event, element })

/-- Runs an event: `inside` and `below` run its children, below the parent it was given itself
and below the element it has found, and `visit` runs the events of included scripts. -/
def runEvent (setup : Setup) (visit : List Event → Option Element → Journey Unit)
    (inside : Journey Unit) (below : Option Element → Journey Unit) (event : Event)
    (parent : Option Element) : Journey Unit := do
  tell (.started event parent)
  pulse
  let result ← attempt (Detour.opening setup visit inside event parent)
  let element ← descend setup below event result
  finish setup event element

mutual

/-- Runs one event and all that belongs to it. -/
def visitOne (setup : Setup) (follow : List Event → Option Element → Journey Unit) :
    Event → Option Element → Journey Unit
  | event@⟨_, _, _, _, _, _, children⟩, parent =>
    runEvent setup follow (visitAll setup follow children parent)
      (visitAll setup follow children) event parent

/-- Runs sibling events in order, until the run is stopped. -/
def visitAll (setup : Setup) (follow : List Event → Option Element → Journey Unit) :
    List Event → Option Element → Journey Unit
  | [], _ => pure ()
  | event :: events, parent => do
    if ← ofWorker Worker.isStopped then
      say (.note .debug .traversal "Stop requested, skipping remaining events")
    else
      visitOne setup follow event parent
      visitAll setup follow events parent

end

/-- Gives the run up, since scripts include each other too deeply. -/
def giveUp : Journey Unit := ofWorker Worker.giveUp

/-- Runs events; scripts may include each other to the given depth. -/
def visit (setup : Setup) : Nat → List Event → Option Element → Journey Unit
  | 0, _, _ => giveUp
  | depth + 1, events, parent => visitAll setup (visit setup depth) events parent

end Journey
end PageScript
