import PageScript.Run.Session
import PageScript.Text.Blank
import PageScript.Text.Numeral

/-!
# Elements and frames

Events that act on an element of the page find it first and then carry out their actions, always in
the same order, however they are written: existence, keeping the element, its disabled state,
clearing, setting, selecting by value, appending, checks, reading into a variable, firing an event
of the page, clicking, and answering an alert. The first action that fails ends the event. An event
for a frame switches into it for its children.
-/

namespace PageScript

/-- Whether an element of a kind shows a value of its own; others show their text. -/
def Kind.showsValue (k : Kind) : Bool :=
  k.can .textInput || k == .control .select || k == .control .filefield

namespace Act

/-- The selectors of an event with variables put in. -/
def selectors (setup : Setup) (event : Event) : Act (List (String × String)) :=
  event.selectors.entries.mapM fun (name, value) => do return (name, ← fill setup value.written)

/-- Tells that the element is missing: as a fault, unless that is expected or allowed. -/
def tellMissing (event : Event) (description : String) : Act Unit :=
  match event.actions.flag? "exists", event.required with
  | some false, _ => log (event.name ++ " element does not exist, as expected.")
  | none, false =>
    log ("Failed to find " ++ event.name ++ " element " ++ description ++ ", but required = false.")
  | _, _ => error ("Failed to find " ++ event.name ++ " element " ++ description ++ ".")

/-- Finds the element of an event, which ends where it is missing, or found but unwanted. -/
def locate (setup : Setup) (event : Event) (parent : Option Element) : Act Element := do
  let wanted ← selectors setup event
  match ← attempt (.find wanted parent setup.elementPatience) with
  | .ok element =>
    if event.actions.flag? "exists" == some false then
      error ("Found " ++ event.name ++ " element, but exists = false.")
      fail .abort
    else return element
  | .error (.noSuchElement description) =>
    tellMissing event description
    fail .abort
  | .error e => fail (.ofBrowser e)

/-- Keeps the element under a name. -/
def keep (setup : Setup) (event : Event) (element : Element) : Act Unit := do
  match ← action? setup event "store" with
  | some name =>
    note .debug .elements "Storing element"
      [("name", name), ("element", element.id)]
    edit (.store name element)
  | none => pure ()

/-- Compares the disabled state of the element with the expected one. -/
def checkDisabled (event : Event) (element : Element) : Act Unit := do
  match event.actions.flag? "disabled" with
  | some expected =>
    let enabled : Bool ← call (.isEnabled element)
    if enabled == expected then
      error (event.name ++ " element is " ++ (if enabled then "enabled" else "disabled")
        ++ ", expected disabled = " ++ (Value.flag expected).written ++ ".")
  | none => pure ()

/-- Empties the element. -/
def clear (event : Event) (element : Element) : Act Unit := do
  if event.actions.flag? "clear" == some true then
    log ("Clearing " ++ event.name ++ " element.")
    call (.clear element)

/-- Clicks the element, with plugins before and after. -/
def click (event : Event) (element : Element) : Act Unit := do
  move (.aroundClick .before event element)
  log ("Clicking " ++ event.name ++ " element.")
  call (.click element)
  move (.aroundClick .after event element)

/-- The word for a selected or deselected state. -/
def stateWord (selected : Bool) : String :=
  if selected then "selected" else "deselected"

/-- Clicks the element if its state is not the one wanted. -/
def setState (event : Event) (element : Element) (wanted : Bool) : Act Unit := do
  if event.kind == .control .radio && !wanted then
    error "Impossible to deselect radio elements."
  else
    let actual : Bool ← call (.isSelected element)
    if wanted == actual then
      log (event.name ++ " is already " ++ stateWord actual ++ ". Skipping.")
    else
      log ("Setting " ++ event.name ++ " state to " ++ stateWord wanted ++ ".")
      click event element

/-- Sets the element: its state, the option with a text, or its text. -/
def set (setup : Setup) (event : Event) (element : Element) : Act Unit := do
  match event.actions.get? "set" with
  | some (.flag wanted) => setState event element wanted
  | some (.text raw) =>
    let value ← fill setup raw
    if event.kind == .control .select then
      log ("Selecting option with text '" ++ value ++ "'.")
      call (.selectOption element (.text value))
    else
      log ("Setting value to '" ++ value ++ "'.")
      call (.setValue element value)
  | none => pure ()

/-- Selects the option with a value. -/
def selectValue (setup : Setup) (event : Event) (element : Element) : Act Unit := do
  match ← action? setup event "setreal" with
  | some value =>
    log ("Selecting option with value '" ++ value ++ "'.")
    call (.selectOption element (.value value))
  | none => pure ()

/-- Appends to the text of the element. -/
def append (setup : Setup) (event : Event) (element : Element) : Act Unit := do
  match ← action? setup event "append" with
  | some value =>
    log ("Appending '" ++ value ++ "'.")
    call (.appendValue element value)
  | none => pure ()

/-- What checks and variables see of the element. -/
def content (kind : Kind) (element : Element) : Act String :=
  if kind.showsValue then call (.value element) else call (.text element)

def checkContent (setup : Setup) (event : Event) (element : Element) : Act Unit := do
  let expected ← action? setup event "assert"
  let unexpected ← action? setup event "assertnot"
  if expected.isSome || unexpected.isSome then
    check expected unexpected (← content event.kind element)

/-- Puts the content of the element into a variable. -/
def readContent (setup : Setup) (event : Event) (element : Element) : Act Unit := do
  match ← action? setup event "var" with
  | some name =>
    let value ← content event.kind element
    log ("Storing element value in var '" ++ name ++ "'.")
    edit (.putVar name value)
  | none => pure ()

def firePageEvent (setup : Setup) (event : Event) (element : Element) : Act Unit := do
  match ← action? setup event "jscriptevent" with
  | some name =>
    log ("Firing javascript event '" ++ name ++ "'.")
    call (.fireEvent element name)
  | none => pure ()

/-- Clicks the element if asked to. -/
def maybeClick (event : Event) (element : Element) : Act Unit := do
  if event.actions.flag? "click" == some true then click event element

/-- Tells how the answer to an alert went; a missing alert is an error but no failure. -/
def tellAnswer (accepted : Bool) (answer : Except BrowserError Unit) : Act Unit := do
  match answer with
  | .ok () => log (if accepted then "Accepted alert dialog." else "Dismissed alert dialog.")
  | .error .noAlert => error "Expected an alert dialog, but none appeared."
  | .error e => fail (.ofBrowser e)

/-- Answers the alert that the actions before have opened. -/
def answerAlert (event : Event) : Act Unit := do
  match event.actions.flag? "alert" with
  | some true => tellAnswer true (← attempt .acceptAlert)
  | some false => tellAnswer false (← attempt .dismissAlert)
  | none => pure ()

/-- Carries out the actions of an event on its element, in their fixed order. -/
def actOn (setup : Setup) (event : Event) (element : Element) : Act Unit := do
  keep setup event element
  checkDisabled event element
  clear event element
  set setup event element
  selectValue setup event element
  append setup event element
  checkContent setup event element
  readContent setup event element
  firePageEvent setup event element
  maybeClick event element
  answerAlert event

/-- Finds the element of an event and acts on it. -/
def element (setup : Setup) (event : Event) (parent : Option Element) : Act Element := do
  let element ← locate setup event parent
  actOn setup event element
  return element

/-- Which frame is meant: by its number, by its name, or as an element. -/
def frameTarget (setup : Setup) (event : Event) (parent : Option Element) : Act FrameTarget := do
  match ← fill? setup (event.selectors.text? "index") with
  | some raw =>
    match Text.readUnsigned? 32 (Text.trimmed raw) with
    | some n => return .index n
    | none => fail (.invalid "index" raw)
  | none =>
    match ← fill? setup ((event.selectors.text? "id").or (event.selectors.text? "name")) with
    | some name => return .name name
    | none =>
      if event.selectors.contains "xpath" || event.selectors.contains "css" then
        return .element (← locate setup event parent)
      else
        fail (.missing event "one of 'index', 'id', 'name', 'xpath' or 'css' is required")

/-- Switches into a frame until the children are done. -/
def frame (setup : Setup) (event : Event) (parent : Option Element) : Act Unit := do
  let target ← frameTarget setup event parent
  log ("Switching to frame " ++ target.shown ++ ".")
  match ← attempt (.switchToFrame target) with
  | .ok _ => return ()
  | .error (.noSuchFrame description) =>
    error ("No frame found matching " ++ description ++ ".")
    fail .abort
  | .error e => fail (.ofBrowser e)

end Act
end PageScript
