import PageScript.Error
import PageScript.Event.Basic

/-!
# Events that have been carried out

What an event leaves for the events below it and for its own end: the element that its children are
looked for in, rows or included events that come first, and what restores the browser's context. An
event that does not get there leaves the reason why.
-/

namespace PageScript

/-- What restores the context of the browser after the children of an event. -/
inductive Restore where
  | nothing
  | defaultContent
  | window (handle : String)
  deriving DecidableEq, Repr

/-- The cells of one row of a table, each with the name it is bound to. -/
abbrev Row := List (String × String)

/-- What belongs to an event and comes before its children. -/
inductive Inner where
  | nothing
  /-- The children are run once for each row, with its cells bound. -/
  | rows (rows : List Row)
  /-- The events of an included script. -/
  | events (events : List Event)

/-- What an event has left when it has been carried out. -/
structure Opened where
  /-- The element that children are looked for in. -/
  element : Option Element := none
  inner : Inner := .nothing
  restore : Restore := .nothing

/-- An event that leaves nothing. -/
def Opened.plain : Opened := {}

/-- Why an event fails in what it does itself. -/
inductive Mishap where
  /-- The event is over; what there was to say has been said. -/
  | abort
  /-- The element is there but not visible. -/
  | hidden
  /-- The browser is gone. -/
  | lost (e : Error)
  /-- Anything else. -/
  | fault (e : Error)
  deriving DecidableEq, Repr

namespace Mishap

/-- What a browser error means for an event. -/
def ofBrowser (e : BrowserError) : Mishap :=
  match e with
  | .elementNotVisible => .hidden
  | e => if e.isFatal then .lost (.browser e) else .fault (.browser e)

/-- What an error means for an event. -/
def ofError : Error → Mishap
  | .browser e => ofBrowser e
  | .cancelled => .abort
  | e => .fault e

/-- An attribute is missing. -/
def missing (event : Event) (message : String) : Mishap :=
  .fault (.missingAttribute event.name message)

/-- An attribute's value cannot be used. -/
def invalid (name value : String) : Mishap :=
  .fault (.invalidValue name value)

end Mishap

/-- Why an event did not succeed. -/
inductive Failure where
  | own (m : Mishap)
  /-- The browser is gone, as an event within this one has already told. -/
  | halted (e : Error)
  deriving DecidableEq, Repr

namespace Failure

@[match_pattern] abbrev abort : Failure := .own .abort

@[match_pattern] abbrev hidden : Failure := .own .hidden

@[match_pattern] abbrev lost (e : Error) : Failure := .own (.lost e)

@[match_pattern] abbrev fault (e : Error) : Failure := .own (.fault e)

def ofError (e : Error) : Failure := .own (.ofError e)

end Failure
end PageScript
