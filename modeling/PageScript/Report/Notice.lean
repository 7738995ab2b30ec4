import PageScript.Duration
import PageScript.Plugin.Phase
import PageScript.Report.Basic
import PageScript.Run.Opened

/-!
# Notices

Everything a run lets others notice, in order: what is said in its course, and the stages it comes
to, which are the start of each event, what it came to and its finish, the rows of tables, and the
plugins that run. Marks stand between them for what goes on between the run and its supervisor.
Of the stages only the start and the finish of an event show, as reports; marks show nowhere.
-/

namespace PageScript

/-- What a plugin has seen when it ran. -/
inductive Sight where
  /-- The plugin's name, the test, the element at hand, its arguments, and a text of its own. -/
  | visit (plugin test : String) (element : Option String) (args : List String)
      (text : Option String)
  /-- The number of scopes and the visible variables. -/
  | variables (depth : Nat) (visible : List (String × String))
  deriving DecidableEq, Repr

/-- Something said in the course of a run, by an event or by a plugin. -/
inductive Remark where
  | report (r : Report)
  | sight (s : Sight)
  | record (r : Record)

namespace Remark

/-- A log line. -/
def log (message : String) : Remark := .report (.log message)

def warning (message : String) : Remark := .report (.warning message)

def error (message : String) : Remark := .report (.error message)

def exception (message : String) (cause : Error) : Remark := .report (.exception message cause)

/-- A record for the log that is no report. -/
def note (level : Level) (topic : Topic) (message : String)
    (fields : List (String × String) := []) : Remark :=
  .record (level.record topic message fields)

end Remark

/-- What may stop a run from within. -/
inductive Insider where
  | plugin
  /-- The time limit of the plugins at the end of a test. -/
  | timeLimit
  deriving DecidableEq, Repr

/-- Who stops a run. -/
inductive Stopper where
  | owner
  | watchdog
  /-- Whatever acts outside, while it is asked for something. -/
  | outside
  | inside (who : Insider)
  deriving DecidableEq, Repr

/-- What goes on between a run and its supervisor. -/
inductive Mark where
  /-- The watchdog is told of progress. -/
  | pulsed (t : Duration)
  /-- The watchdog allows more time until the next pulse. -/
  | extended (d : Duration)
  /-- The supervisor has looked at the watchdog in vain, at each tick from the first one on and
  before the next one. -/
  | looked (first next : Duration)
  /-- The run is stopped, which comes only once: by the watchdog at the tick at which the supervisor
  has found it expired. -/
  | stopped (who : Stopper) (t : Duration)
  deriving DecidableEq, Repr

/-- What an occasion for plugins belongs to: nothing, or an event and perhaps its element. -/
structure Occasion where
  phase : Phase
  event : Option Event := none
  element : Option Element := none

/-- The tag of the event an occasion belongs to. -/
def Occasion.tag (o : Occasion) : Option String :=
  o.event.map (·.name)

/-- A stage that a run comes to. -/
inductive Stage where
  /-- An event starts, below the given element. -/
  | started (event : Event) (parent : Option Element)
  /-- An event has been carried out, before everything that belongs to it, or has failed. -/
  | carriedOut (event : Event) (result : Except Mishap Opened)
  /-- The failure of an event is dealt with. -/
  | failed (event : Event) (failure : Failure)
  /-- An event has finished, with the element it was carried out on. -/
  | finished (event : Event) (element : Option Element)
  /-- A row of a table begins. -/
  | row (cells : Row)
  /-- An occasion for plugins comes. -/
  | occasion (o : Occasion)
  /-- A plugin starts: at a phase, or called by a script. -/
  | pluginStarted (plugin : String) (phase : Option Phase)
  /-- A plugin has come to its end. -/
  | pluginEnded (plugin : String) (phase : Option Phase)
  /-- A plugin has been given up. -/
  | pluginLeft (plugin : String) (phase : Option Phase)

/-- Something a run lets others notice. -/
inductive Notice where
  | report (r : Report)
  | sight (s : Sight)
  | record (r : Record)
  | stage (s : Stage)
  | mark (m : Mark)

/-- A remark as something that others notice. -/
def Remark.notice : Remark → Notice
  | .report r => .report r
  | .sight s => .sight s
  | .record r => .record r

namespace Notice

/-- The report a notice shows as. -/
def report? : Notice → Option Report
  | .report r => some r
  | .stage (.started e _) => some (.log (e.name ++ " event started..."))
  | .stage (.finished e _) => some (.log (e.name ++ " event finished."))
  | _ => none

/-- The log record of a notice. -/
def record? (n : Notice) : Option Record :=
  match n with
  | .record r => some r
  | n => n.report?.map Report.record

end Notice
end PageScript
