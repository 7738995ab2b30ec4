import PageScript.Run.Outside

/-!
# A browser for dry runs

A browser that does nothing and puts the calls into the log instead, for trying the control flow and
the variables of a script. Every element is found, under a new identifier; pages are empty, no alert
is ever open, and there is one window until it is closed.
-/

namespace PageScript

/-- The state of a dry run. -/
structure Rehearsal where
  /-- How many elements have been found. -/
  found : Nat := 0
  url : String := ""
  closed : Bool := false
  deriving DecidableEq, Repr

namespace Rehearsal

/-- The handle of the one window. -/
def mainWindow : String := "main"

/-- Answers a call after putting a record into the log. -/
def noted {α : Type} (r : Rehearsal) (answer : α) (record : Record) :
    Conduct Rehearsal (Except BrowserError α) :=
  (Conduct.answer r (.ok answer)).after [.note record]

/-- Answers a call after putting a record of it into the log. -/
def logged {α : Type} (r : Rehearsal) (answer : α) (message : String)
    (fields : List (String × String) := []) : Conduct Rehearsal (Except BrowserError α) :=
  r.noted answer (Level.info.record .rehearsal message fields)

/-- Answers a call silently. -/
def silent {α : Type} (r : Rehearsal) (answer : α) : Conduct Rehearsal (Except BrowserError α) :=
  .answer r (.ok answer)

/-- Fails silently. -/
def failing {α : Type} (r : Rehearsal) (e : BrowserError) :
    Conduct Rehearsal (Except BrowserError α) :=
  .answer r (.error e)

/-- Answers a search with a new element of the tag asked for. -/
def find (r : Rehearsal) (selectors : List (String × String)) (parent : Option Element) :
    Conduct Rehearsal (Except BrowserError Element) :=
  let id := "dry-" ++ toString (r.found + 1)
  let shown := Text.quotedList (selectors.map Text.quotedPair)
  let e : Element := { id, tag := (selectors.lookup "html_tag").getD "" }
  let record := Level.info.record .rehearsal "find element" [("element", id), ("selectors", shown)]
  let record := match parent with
    | some p => { record with fields := record.fields ++ [("parent", p.id)] }
    | none => { record with unset := ["parent"] }
  noted { r with found := r.found + 1 } e record

/-- How a dry run answers a call. -/
def conduct (r : Rehearsal) :
    (c : Call) → Conduct Rehearsal (Except BrowserError c.Answer)
  | .find selectors parent _ => r.find selectors parent
  | .click e => r.logged () "click" [("element", e.id)]
  | .text e => r.logged "" "read text" [("element", e.id)]
  | .value e => r.logged "" "read value" [("element", e.id)]
  | .setValue e v => r.logged () "set value" [("element", e.id), ("value", v)]
  | .appendValue e v => r.logged () "append value" [("element", e.id), ("value", v)]
  | .clear e => r.logged () "clear" [("element", e.id)]
  | .isSelected _ => r.silent false
  | .isEnabled _ => r.silent true
  | .selectOption e target =>
    r.logged () "select option" [("element", e.id), ("option", target.shown)]
  | .fireEvent e event => r.logged () "fire event" [("element", e.id), ("event", event)]
  | .switchToFrame target => r.logged () "switch to frame" [("target", target.shown)]
  | .switchToDefaultContent => r.logged () "switch to default content"
  | .windowHandles => r.silent (if r.closed then [] else [mainWindow])
  | .currentWindow => r.silent mainWindow
  | .switchToWindow h =>
    if h == mainWindow then r.silent () else r.failing (.noSuchWindow h)
  | .title => r.silent ""
  | .currentUrl => r.silent r.url
  | .navigate url => logged { r with url } () "navigate" [("url", url)]
  | .back => r.logged () "back"
  | .forward => r.logged () "forward"
  | .refresh => r.logged () "refresh"
  | .close => logged { r with closed := true } () "close window"
  | .pageSource => r.silent ""
  | .executeScript s => r.logged "" "execute script" [("len", toString s.utf8ByteSize)]
  | .screenshot => r.silent ByteArray.empty
  | .alertText => r.failing .noAlert
  | .acceptAlert => r.failing .noAlert
  | .dismissAlert => r.failing .noAlert
  | .dragAndDrop source target =>
    r.logged () "drag and drop" [("source", source.id), ("destination", target.id)]

end Rehearsal
end PageScript
