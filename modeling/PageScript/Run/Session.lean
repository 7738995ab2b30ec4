import PageScript.Path
import PageScript.Plugin.Basic

/-!
# Sessions

The settings of a run, what it remembers from one event to the next, and the acts that carry out its
events. An act is a program of moves, which may read and edit the session, and ends with a result or
a mishap; what it has done to the session by then stays. Every step that goes out to the world is
given up once the run is stopped, which aborts the event. An act can neither start events nor tell
the watchdog anything.
-/

namespace PageScript

/-- The settings of a run. -/
structure Setup where
  /-- The name of the test, as plugins see it. -/
  testName : String
  /-- How long the run may go without progress. -/
  watchdogTimeout : Duration
  /-- How often the watchdog is looked at. -/
  watchdogPoll : Duration
  /-- How long the browser may look for an element. -/
  elementPatience : Duration
  /-- How long a window is looked for. -/
  attachPatience : Duration
  hijacks : Hijacks := []
  globals : Bindings String := []
  /-- Texts that must not be on a checked page. -/
  pageChecks : List String := []
  /-- The directory that file names in scripts start from. -/
  baseDir : Option String := none
  plugins : List Configured := []
  /-- Whether scripts may include others. -/
  canLoad : Bool := true
  /-- How deeply scripts may include each other. -/
  nesting : Nat := 10000

/-- What a run remembers from one event to the next. -/
structure Session where
  vars : Vars
  /-- The active plugins, in order. -/
  registry : List Registration
  /-- Texts that page checks pass over, by name. -/
  whitelist : Bindings String := []
  /-- Elements kept under a name. -/
  stored : Bindings Element := []
  /-- The window the run takes to be in use. -/
  window : Option String := none
  /-- The file that the next table event reads instead of its own. -/
  pendingTable : Option String := none

/-- The variables a run starts with. -/
def Setup.initialVars (s : Setup) (c : Calendar) : Vars :=
  s.globals.sorted.foldl (fun v p => v.put ("global." ++ p.1) p.2)
    ((({} : Vars).put "stamp" c.stamp).put "currentdate" c.date)

/-- The session a run starts with. -/
def Setup.session (s : Setup) (c : Calendar) : Session where
  vars := s.initialVars c
  registry := Configured.active s.plugins

/-- What an event may change in what a run remembers. -/
inductive Edit where
  | putVar (name value : String)
  | eraseVar (name : String)
  | activate (r : Registration)
  /-- Page checks pass over a text from now on. -/
  | passOver (name text : String)
  /-- Page checks heed the text of a name again. -/
  | heed (name : String)
  | store (name : String) (e : Element)
  | setWindow (handle : Option String)
  | setPendingTable (file : Option String)

/-- Changes what a run remembers. -/
def Session.edit (s : Session) : Edit → Session
  | .putVar name value => { s with vars := s.vars.put name value }
  | .eraseVar name => { s with vars := s.vars.erase name }
  | .activate r => { s with registry := s.registry ++ [r] }
  | .passOver name text => { s with whitelist := s.whitelist.put name text }
  | .heed name => { s with whitelist := s.whitelist.erase name }
  | .store name e => { s with stored := s.stored.put name e }
  | .setWindow handle => { s with window := handle }
  | .setPendingTable file => { s with pendingTable := file }

/-- Whether plugins run before or after a click. -/
inductive Side where
  | before | after
  deriving DecidableEq, Repr

/-- What an event may ask for while it is carried out. -/
inductive Move where
  | say (r : Remark)
  /-- A step, which is given up once the run is stopped. -/
  | step (s : Step)
  | now
  | calendar
  | session
  | edit (e : Edit)
  /-- Runs the plugins around the click of an element. -/
  | aroundClick (side : Side) (event : Event) (element : Element)
  /-- Runs a plugin by itself. -/
  | plugin (p : Plugin) (element : Option Element) (args : List String)

@[reducible] def Move.Answer : Move → Type
  | .say _ | .edit _ | .aroundClick .. => Unit
  | .step s => Except Cut s.Answer
  | .now => Duration
  | .calendar => Calendar
  | .session => Session
  | .plugin .. => Except Cut (Except Error Unit)

/-- What an event does while it is carried out, which ends with a result or a mishap. -/
abbrev Act (α : Type) := ExceptT Mishap (Program Move Move.Answer) α

namespace Act

/-- Asks for one move. -/
def move (m : Move) : Act m.Answer :=
  ExceptT.lift (Program.request m)

/-- Ends the event. -/
def fail {α : Type} (m : Mishap) : Act α := throw m

def say (r : Remark) : Act Unit := move (.say r)

/-- Reports a log line. -/
def log (message : String) : Act Unit := say (.log message)

/-- Reports a warning. -/
def warn (message : String) : Act Unit := say (.warning message)

/-- Reports an error. -/
def error (message : String) : Act Unit := say (.error message)

/-- Puts a record into the log. -/
def note (level : Level) (topic : Topic) (message : String)
    (fields : List (String × String) := []) : Act Unit :=
  say (.note level topic message fields)

/-- What the run remembers. -/
def session : Act Session := move .session

/-- Changes what the run remembers. -/
def edit (e : Edit) : Act Unit := move (.edit e)

/-- Goes on with what has not been given up; otherwise the event is over. -/
def orAbort {α : Type} : Except Cut α → Act α
  | .ok x => pure x
  | .error _ => fail .abort

/-- Takes a step; if the run is stopped, the event is over. -/
def step (s : Step) : Act s.Answer := do
  orAbort (← move (.step s))

def perform (a : Action) : Act a.Answer := step (.act a)

def attempt (c : Call) : Act (Except BrowserError c.Answer) := perform (.call c)

/-- Calls the browser; an error ends the event. -/
def call (c : Call) : Act c.Answer := do
  match ← attempt c with
  | .ok x => pure x
  | .error e => fail (.ofBrowser e)

/-- Puts the values of variables into a text. -/
def fill (setup : Setup) (raw : String) : Act String := do
  return substitute setup.hijacks (← session).vars raw

/-- Puts the values of variables into a text that may be missing. -/
def fill? (setup : Setup) (raw : Option String) : Act (Option String) := do
  match raw with
  | some raw => return some (← fill setup raw)
  | none => return none

/-- The text of an action, with variables put in, if the event has it. -/
def action? (setup : Setup) (event : Event) (name : String) : Act (Option String) :=
  fill? setup (event.actions.text? name)

/-- The text of an action that the event must have. -/
def require (setup : Setup) (event : Event) (name : String) : Act String := do
  match ← action? setup event name with
  | some text => pure text
  | none => fail (.missing event ("'" ++ name ++ "' is required"))

/-- The texts of the positional arguments, with variables put in. -/
def arguments (setup : Setup) (event : Event) : Act (List String) :=
  event.args.mapM (fill setup)

/-- Reports the checks of a text that are asked for. -/
def check (expected unexpected : Option String) (text : String) : Act Unit := do
  match expected with
  | some expected => say (.report (.check expected text))
  | none => pure ()
  match unexpected with
  | some unexpected => say (.report (.checkNot unexpected text))
  | none => pure ()

end Act
end PageScript
