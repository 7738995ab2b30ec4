import PageScript.Run.Commands
import PageScript.Run.Dispatch

/-!
# Carrying out events

Acts become part of a run: each of their moves is answered by the session or by the worker. Most
events are one act. Two of them also tell the watchdog to allow for a long wait: the waiting event
itself, and the one that looks for a window.
-/

namespace PageScript

/-- A stretch of a run, which works on what the run remembers. -/
abbrev Stretch (α : Type) := StateT Session Worker α

namespace Stretch

/-- A stretch of a run that the session has no share in. -/
def ofWorker {α : Type} (w : Worker α) : Stretch α := StateT.lift w

/-- Runs the plugins of an occasion. -/
def fire (setup : Setup) (o : Occasion) : Stretch Unit := do
  ofWorker ((← get).fire setup o)

end Stretch

/-- The phase of the plugins on one side of a click. -/
def Side.phase : Side → Phase
  | .before => .beforeClick
  | .after => .afterClick

def Move.play (setup : Setup) : (m : Move) → Stretch m.Answer
  | .say r => .ofWorker (Worker.say r)
  | .step s => .ofWorker (Worker.guarded (.untilStop none) s)
  | .now => .ofWorker Worker.now
  | .calendar => .ofWorker Worker.calendar
  | .session => get
  | .edit e => modify (·.edit e)
  | .aroundClick side event element =>
    .fire setup { phase := side.phase, event := some event, element := some element }
  | .plugin p element args => do
    .ofWorker (p.run (.untilStop none) none ((← get).pluginContext setup element args))

/-- An act as a stretch of a run. -/
def Act.play {α : Type} (setup : Setup) (a : Act α) : Stretch (Except Mishap α) :=
  a.run.handle (Move.play setup)

/-- A stretch of a run that carries out one event. -/
abbrev Passage (α : Type) := ExceptT Mishap Stretch α

namespace Passage

/-- Part of an event that the session has no share in. -/
def ofWorker {α : Type} (w : Worker α) : Passage α :=
  ExceptT.lift (Stretch.ofWorker w)

def tell (s : Stage) : Passage Unit := ofWorker (Worker.tell s)

/-- An act as part of an event. -/
def act {α : Type} (setup : Setup) (a : Act α) : Passage α :=
  ExceptT.mk (a.play setup)

def extend (d : Duration) : Passage Unit :=
  ofWorker (Worker.extend d)

/-- An act that leaves nothing. -/
def plainly (setup : Setup) (a : Act Unit) : Passage Opened := do
  act setup a
  return .plain

/-- Waits, which the watchdog allows for. -/
def wait (setup : Setup) (event : Event) : Passage Opened := do
  let secs ← act setup (Act.announceWait setup event)
  extend (.ofSecs secs)
  plainly setup (Act.step (.sleep (.ofSecs secs)))

/-- Attaches to a window until the children are done; the watchdog allows for the search. -/
def attach (setup : Setup) (event : Event) : Passage Opened := do
  let (q, previous) ← act setup do
    let q ← WindowQuery.ofEvent setup event
    let previous : String ← Act.call .currentWindow
    return (q, previous)
  extend setup.attachPatience
  act setup (Act.attach setup q previous)
  return { restore := .window previous }

/-- Carries out an event, before everything that belongs to it. -/
def carryOut (setup : Setup) (event : Event) (parent : Option Element) : Passage Opened :=
  match event.kind with
  | .command .alert => plainly setup (Act.alert setup event)
  | .command .arg => plainly setup (pure ())
  | .command .attach => attach setup event
  | .command .browser => plainly setup (Act.browser setup event)
  | .command .csv => return { inner := .rows (← act setup (Act.csv setup event)) }
  | .command .delete => plainly setup (Act.delete setup event)
  | .command .dnd => plainly setup (Act.dragAndDrop setup event)
  | .command .execute => plainly setup (Act.execute setup event)
  | .command .javaplugin => plainly setup (Act.callPlugin setup event parent)
  | .command .javascript => plainly setup (Act.javascript setup event)
  | .command .pluginloader => plainly setup (Act.loadPlugin setup event)
  | .command .puts => plainly setup (Act.puts setup event)
  | .command .savehtml => plainly setup (Act.saveHtml setup event)
  | .command .screenshot => plainly setup (Act.screenshot setup event)
  | .command .script => return { inner := .events (← act setup (Act.script setup event)) }
  | .command .timestamp => plainly setup Act.timestamp
  | .command .var => plainly setup (Act.var setup event)
  | .command .wait => wait setup event
  | .command .whitelist => plainly setup (Act.whitelist setup event)
  | .frame => do
    act setup (Act.frame setup event parent)
    return { restore := .defaultContent }
  | .markup _ | .control _ =>
    return { element := some (← act setup (Act.element setup event parent)) }

end Passage
end PageScript
