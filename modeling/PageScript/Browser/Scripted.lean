import PageScript.Bindings
import PageScript.Run.Outside

/-!
# A scripted browser

A browser that follows a script, for rehearsing runs: windows with a title, an address and a source,
elements with a text, a value and two states, pages that addresses lead to, alerts that are open one
after another, and answers to scripts. Faults may make calls fail, take time, stop the run, or never
end; each applies to the calls whose words start in a given way.
-/

namespace PageScript

/-- A call in words: its name and what it is given. -/
def Call.words : Call → String
  | .find selectors parent patience =>
    "find " ++ ";".intercalate (selectors.map fun (n, v) => n ++ "=" ++ v) ++ " parent="
      ++ (parent.map (·.id)).getD "-" ++ " timeout=" ++ toString (Duration.secs patience) ++ "s"
  | .click e => "click " ++ e.id
  | .text e => "text " ++ e.id
  | .value e => "value " ++ e.id
  | .setValue e v => "set_value " ++ e.id ++ " " ++ v
  | .appendValue e v => "append_value " ++ e.id ++ " " ++ v
  | .clear e => "clear " ++ e.id
  | .isSelected e => "is_selected " ++ e.id
  | .isEnabled e => "is_enabled " ++ e.id
  | .selectOption e (.text v) => "select_option " ++ e.id ++ " text " ++ v
  | .selectOption e (.value v) => "select_option " ++ e.id ++ " value " ++ v
  | .fireEvent e v => "fire_event " ++ e.id ++ " " ++ v
  | .switchToFrame (.index n) => "switch_to_frame index " ++ toString n
  | .switchToFrame (.name s) => "switch_to_frame name " ++ s
  | .switchToFrame (.element e) => "switch_to_frame element " ++ e.id
  | .switchToDefaultContent => "switch_to_default_content"
  | .windowHandles => "window_handles"
  | .currentWindow => "current_window"
  | .switchToWindow h => "switch_to_window " ++ h
  | .title => "title"
  | .currentUrl => "current_url"
  | .navigate u => "navigate " ++ u
  | .back => "back"
  | .forward => "forward"
  | .refresh => "refresh"
  | .close => "close"
  | .pageSource => "page_source"
  | .executeScript s => "execute_script " ++ s
  | .screenshot => "screenshot"
  | .alertText => "alert_text"
  | .acceptAlert => "accept_alert"
  | .dismissAlert => "dismiss_alert"
  | .dragAndDrop a b => "drag_and_drop " ++ a.id ++ " " ++ b.id

structure Window where
  handle : String
  title : String := "Mock"
  url : String := "about:blank"
  source : String := "<html><body>Welcome</body></html>"
  deriving DecidableEq, Repr

structure ElementState where
  text : String
  value : String
  selected : Bool := false
  enabled : Bool := true
  deriving DecidableEq, Repr

/-- The state of an element that the script does not speak of. -/
def ElementState.ofId (id : String) : ElementState where
  text := "text of " ++ id
  value := "value of " ++ id

/-- A page that an address leads to. -/
structure Page where
  title : String
  source : String
  deriving DecidableEq, Repr

/-- What a fault does to a call. -/
inductive FaultEffect where
  | hang
  | sleep (d : Duration)
  | stop
  | fail (e : BrowserError)
  deriving DecidableEq, Repr

/-- A fault: it applies to calls whose words start with `on`, but not to the first `skip` of them,
and then at most `times` times. -/
structure Fault where
  on : String
  effect : FaultEffect
  skip : Nat := 0
  times : Option Nat := none
  /-- How many calls it has applied to so far, the skipped ones included. -/
  seen : Nat := 0
  deriving DecidableEq, Repr

namespace Fault

/-- Whether a call's words start as the fault asks. -/
def covers (f : Fault) (words : String) : Bool :=
  f.on.toList.isPrefixOf words.toList

/-- Whether the fault has its effect on the next call that it covers. -/
def isActive (f : Fault) : Bool :=
  f.skip ≤ f.seen && f.times.all fun n => f.seen < f.skip + n

/-- Counts a call, if the fault covers it. -/
def count (words : String) (f : Fault) : Fault :=
  if f.covers words then { f with seen := f.seen + 1 } else f

/-- What faults do to a call, in order. -/
def effects (faults : List Fault) (words : String) : List FaultEffect :=
  (faults.filter fun f => f.covers words && f.isActive).map (·.effect)

end Fault

/-- A browser that follows a script. -/
structure ScriptedBrowser where
  windows : List Window := [{ handle := "main" }]
  current : String := "main"
  elements : Bindings ElementState := []
  pages : Bindings Page := []
  alerts : List String := []
  scripts : Bindings String := []
  faults : List Fault := []

namespace ScriptedBrowser

/-- What a call comes to: an answer, and the browser after it. -/
abbrev Result (c : Call) := Except BrowserError c.Answer × ScriptedBrowser

def elementState (b : ScriptedBrowser) (e : Element) : ElementState :=
  (b.elements.get? e.id).getD (.ofId e.id)

def change (b : ScriptedBrowser) (e : Element) (f : ElementState → ElementState) :
    ScriptedBrowser :=
  { b with elements := b.elements.put e.id (f (b.elementState e)) }

/-- The window in use, unless it is gone. -/
def window? (b : ScriptedBrowser) : Option Window :=
  b.windows.find? (·.handle == b.current)

/-- What a call reads from the window in use. -/
def fromWindow {α : Type} (b : ScriptedBrowser) (read : Window → α) :
    Except BrowserError α × ScriptedBrowser :=
  (match b.window? with
    | some w => .ok (read w)
    | none => .error (.noSuchWindow b.current), b)

/-- A window that has been led to an address. -/
def lead (b : ScriptedBrowser) (url : String) (w : Window) : Window :=
  match b.pages.get? url with
  | some page => { w with url, title := page.title, source := page.source }
  | none => { w with url }

/-- The element that selectors name: by its identifier, or else by its name. -/
def found (selectors : List (String × String)) : Element where
  id := ((selectors.lookup "id").or (selectors.lookup "name")).getD "anon"
  tag := (selectors.lookup "html_tag").getD ""

/-- Closes the first alert. -/
def closeAlert (b : ScriptedBrowser) : Except BrowserError Unit × ScriptedBrowser :=
  match b.alerts with
  | [] => (.error .noAlert, b)
  | _ :: rest => (.ok (), { b with alerts := rest })

/-- Carries out a call. -/
def perform (b : ScriptedBrowser) : (c : Call) → Result c
  | .find selectors _ _ => (.ok (found selectors), b)
  | .click e => (.ok (), b.change e fun s => { s with selected := !s.selected })
  | .text e => (.ok (b.elementState e).text, b)
  | .value e => (.ok (b.elementState e).value, b)
  | .setValue e v => (.ok (), b.change e fun s => { s with value := v })
  | .appendValue e v => (.ok (), b.change e fun s => { s with value := s.value ++ v })
  | .clear e => (.ok (), b.change e fun s => { s with value := "" })
  | .isSelected e => (.ok (b.elementState e).selected, b)
  | .isEnabled e => (.ok (b.elementState e).enabled, b)
  | .selectOption e (.text v) => (.ok (), b.change e fun s => { s with value := v })
  | .selectOption e (.value v) => (.ok (), b.change e fun s => { s with value := v })
  | .fireEvent .. => (.ok (), b)
  | .switchToFrame _ => (.ok (), b)
  | .switchToDefaultContent => (.ok (), b)
  | .windowHandles => (.ok (b.windows.map (·.handle)), b)
  | .currentWindow => b.fromWindow (·.handle)
  | .switchToWindow h =>
    if b.windows.any (·.handle == h) then (.ok (), { b with current := h })
    else (.error (.noSuchWindow h), b)
  | .title => b.fromWindow (·.title)
  | .currentUrl => b.fromWindow (·.url)
  | .navigate u =>
    if b.window?.isSome then
      (.ok (), { b with
        windows := b.windows.map fun w => if w.handle == b.current then b.lead u w else w })
    else (.error (.noSuchWindow b.current), b)
  | .back => (.ok (), b)
  | .forward => (.ok (), b)
  | .refresh => (.ok (), b)
  | .close => (.ok (), { b with windows := b.windows.filter (·.handle != b.current) })
  | .pageSource => b.fromWindow (·.source)
  | .executeScript s => (.ok ((b.scripts.get? s).getD ""), b)
  | .screenshot => b.fromWindow fun w => ("PNG " ++ w.url).toUTF8
  | .alertText =>
    (match b.alerts with
      | [] => .error .noAlert
      | text :: _ => .ok text, b)
  | .acceptAlert => b.closeAlert
  | .dismissAlert => b.closeAlert
  | .dragAndDrop .. => (.ok (), b)

/-- Goes through the effects of faults: what happens before the first that ends the call, and how
that one ends it, if there is one: with an error or not at all. -/
def suffer : List FaultEffect → List Beat × Option (Option BrowserError)
  | [] => ([], none)
  | .hang :: _ => ([], some none)
  | .fail e :: _ => ([], some (some e))
  | .sleep d :: r => let (beats, ending) := suffer r; (.rest d :: beats, ending)
  | .stop :: r => let (beats, ending) := suffer r; (.stop :: beats, ending)

/-- How the browser behaves when it is called. -/
def conduct (c : Call) (b : ScriptedBrowser) :
    Conduct ScriptedBrowser (Except BrowserError c.Answer) :=
  let effects := Fault.effects b.faults c.words
  let counted := { b with faults := b.faults.map (Fault.count c.words) }
  let (beats, ending) := suffer effects
  { start := counted
    beats
    ending :=
      match ending with
      | none => some (counted.perform c)
      | some (some e) => some (.error e, counted)
      | some none => none }

end ScriptedBrowser
end PageScript
