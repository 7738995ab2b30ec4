import PageScript.Run.Session
import PageScript.Text.Blank
import PageScript.Text.Numeral
import PageScript.Text.Search

/-!
# Windows

Events that act on the browser as a whole: attaching to another window until the children are done,
navigation and closing, checks of the page, and answers to alerts.
-/

namespace PageScript

/-- Which window is wanted. -/
structure WindowQuery where
  title : Option String
  url : Option String
  index : Option Nat
  deriving DecidableEq, Repr

namespace WindowQuery

/-- The words for what is wanted: its title, or else its address, or else its number. -/
def words (q : WindowQuery) : String :=
  match q.title, q.url, q.index with
  | some title, _, _ => "title '" ++ title ++ "'"
  | none, some url, _ => "url '" ++ url ++ "'"
  | none, none, some index => "index " ++ toString index
  | none, none, none => ""

/-- Reads what an attaching event asks for. -/
def ofEvent (setup : Setup) (event : Event) : Act WindowQuery := do
  let title ← Act.fill? setup (event.selectors.text? "title")
  let url ← Act.fill? setup (event.selectors.text? "url")
  match ← Act.fill? setup (event.selectors.text? "index") with
  | some raw =>
    match Text.readUnsigned? 64 (Text.trimmed raw) with
    | some index => return { title, url, index := some index }
    | none => Act.fail (.invalid "index" raw)
  | none =>
    if title.isNone && url.isNone then
      Act.fail (.missing event "one of 'title', 'url' or 'index' is required")
    else return { title, url, index := none }

/-- Whether the text that a call answers contains what is wanted, if anything is. -/
def matchesBy (wanted : Option String) (c : Call) (read : c.Answer → String) : Act Bool := do
  match wanted with
  | some wanted =>
    let answer ← Act.call c
    return Text.contains (read answer) wanted
  | none => return false

/-- Goes through windows until one has the title or the address that is wanted. -/
def scan (q : WindowQuery) : List String → Act (Option String)
  | [] => pure none
  | handle :: rest => do
    Act.call (.switchToWindow handle)
    if ← matchesBy q.title .title id then return some handle
    if ← matchesBy q.url .currentUrl id then return some handle
    q.scan rest

/-- Switches to the window that is wanted, if it is there. A number alone decides if it is given;
otherwise windows are looked at in order, and the last one stays in use if none is the one. -/
def find (q : WindowQuery) : Act (Option String) := do
  let handles : List String ← Act.call .windowHandles
  -- title and address do not matter where there is a number
  match q.index with
  | none => q.scan handles
  | some index =>
    match handles[index]? with
    | none => return none
    | some handle =>
      Act.call (.switchToWindow handle)
      return some handle

/-- The pause between two looks for a window. -/
def pause : Duration := .ofSecs 1

/-- Looks for a window again and again until the deadline, with at most so many pauses. -/
def search (q : WindowQuery) (deadline : Duration) : Nat → Act (Option String)
  | 0 => q.find
  | pauses + 1 => do
    match ← q.find with
    | some handle => return some handle
    | none =>
      let now : Duration ← Act.move .now
      if deadline ≤ now then return none
      Act.step (.sleep pause)
      q.search deadline pauses

end WindowQuery

namespace Act

/-- Attaches to the window that is wanted, or goes back to the one in use before. -/
def attach (setup : Setup) (q : WindowQuery) (previous : String) : Act Unit := do
  let now : Duration ← move .now
  let pauses := (setup.attachPatience + WindowQuery.pause - 1) / WindowQuery.pause
  match ← q.search (Duration.after now setup.attachPatience) pauses with
  | some handle =>
    log ("Attached to window '" ++ handle ++ "'.")
    edit (.setWindow (some handle))
  | none =>
    call (.switchToWindow previous)
    error ("Failed to find window matching " ++ q.words ++ ".")
    fail .abort

/-- Opens an address. -/
def navigate (url : String) : Act Unit := do
  log ("Opening url '" ++ url ++ "'.")
  call (.navigate url)

/-- Closes the window in use and moves to the first one that is left. -/
def closeWindow : Act Unit := do
  log "Closing browser window."
  call .close
  let handles : List String ← call .windowHandles
  match handles.head? with
  | some next =>
    call (.switchToWindow next)
    edit (.setWindow (some next))
  | none => edit (.setWindow none)

/-- A page without the texts that checks pass over, one after another in the order of their names,
and the names of those that were on it. -/
def passOver (whitelist : Bindings String) (page : String) : String × List String :=
  whitelist.sorted.foldl
    (fun (page, names) (name, text) =>
      if !text.isEmpty && Text.contains page text then (Text.erase page text, names ++ [name])
      else (page, names))
    (page, [])

/-- Reports each forbidden text that is on the page. -/
def checkPage (setup : Setup) : Act Unit := do
  let page ← call .pageSource
  let (page, names) := passOver (← session).whitelist page
  names.forM fun name =>
    note .debug .commands "Ignoring whitelisted text" [("whitelist", name)]
  setup.pageChecks.forM fun text =>
    if Text.contains page text then error ("Page check failed: found '" ++ text ++ "'.")
    else pure ()

/-- What a browsing event does to the window in use. -/
def browse (event : Event) (action url : Option String) : Act Unit := do
  match action with
  | some "url" =>
    match url with
    | some url => navigate url
    | none => fail (.missing event "'url' is required for action 'url'")
  | some "back" =>
    log "Browser back."
    call .back
  | some "forward" =>
    log "Browser forward."
    call .forward
  | some "refresh" =>
    log "Browser refresh."
    call .refresh
  | some "close" => closeWindow
  | some other => fail (.invalid "action" other)
  | none =>
    match url with
    | some url => navigate url
    | none => pure ()

/-- Acts on the window in use and checks its page. -/
def browser (setup : Setup) (event : Event) : Act Unit := do
  let url ← action? setup event "url"
  let action ← action? setup event "action"
  browse event (action.map String.toLower) url
  let expected ← action? setup event "assert"
  let unexpected ← action? setup event "assertnot"
  if expected.isSome || unexpected.isSome then
    let page ← call .pageSource
    check expected unexpected page
  if event.actions.flag? "assertpage" == some true then checkPage setup

/-- The text of the open alert, if there is one. -/
def alertText? : Act (Option String) := do
  match ← attempt .alertText with
  | .ok text => return some text
  | .error .noAlert => return none
  | .error e => fail (.ofBrowser e)

/-- Looks at the open alert and answers it. -/
def alert (setup : Setup) (event : Event) : Act Unit := do
  let text ← alertText?
  let wanted := event.actions.flag? "exists"
  match wanted with
  | some expected =>
    if text.isSome != expected then
      error ("Alert dialog " ++ (if text.isSome then "is" else "is not")
        ++ " present, expected exists = " ++ (Value.flag expected).written)
      fail .abort
  | none => pure ()
  match text with
  | none =>
    if wanted == some false then log "No alert dialog present, as expected."
    else
      error "No alert dialog found."
      fail .abort
  | some text =>
    check (← action? setup event "assert") none text
    match event.actions.flag? "alert" with
    | some true =>
      log "Accepting alert dialog."
      call .acceptAlert
    | some false =>
      log "Dismissing alert dialog."
      call .dismissAlert
    | none => pure ()

end Act
end PageScript
