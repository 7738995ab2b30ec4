import PageScript.Run.Elements
import PageScript.Run.Windows
import PageScript.Table.Basic
import PageScript.Text.Utf8

/-!
# Commands

Events that drive the interpreter itself: variables, tables, files, programs, plugins, included
scripts, waiting, and the texts that page checks pass over.
-/

namespace PageScript

/-- How long a waiting event waits if it does not say. -/
def defaultWaitSecs : Nat := 5

namespace Act

/-- A file name of a script as a path. -/
def path (setup : Setup) (raw : String) : String :=
  Path.resolve setup.baseDir raw

def readFile (path : String) : Act String := do
  match ← perform (.readFile path) with
  | .ok text => pure text
  | .error e => fail (.fault (.fileRead path e.message))

def writeFile (path : String) (content : ByteArray) : Act Unit := do
  match ← perform (.writeFile path content) with
  | .ok () => pure ()
  | .error e => fail (.fault (.io e.message))

/-- The file of a table event: the pending one, which is used up, or the event's own. -/
def chooseTable (setup : Setup) (event : Event) : Act String := do
  match (← session).pendingTable with
  | some file =>
    edit (.setPendingTable none)
    return file
  | none => require setup event "file"

/-- The rows of a table, each with what it binds. -/
def rowsOf (name : String) (table : Table) : List Row :=
  table.rows.map (Table.bindings (fun header => name ++ "." ++ header) table.headers)

/-- Reads the table whose rows the children are run for, or names the file of the next one. -/
def csv (setup : Setup) (event : Event) : Act (List Row) := do
  match ← action? setup event "override" with
  | some file =>
    log ("Next csv event will read '" ++ file ++ "'.")
    edit (.setPendingTable (some file))
    return []
  | none =>
    let file ← chooseTable setup event
    let name := (← action? setup event "var").getD "csv"
    let path := path setup file
    let table := Table.ofText (← readFile path)
    log ("Processing csv file '" ++ path ++ "' with " ++ toString table.rows.length ++ " rows.")
    return rowsOf name table

/-- Removes a variable. -/
def delete (setup : Setup) (event : Event) : Act Unit := do
  let name ← require setup event "name"
  let bound := (← session).vars.contains name
  edit (.eraseVar name)
  if bound then log ("Deleted var '" ++ name ++ "'.")
  else warn ("Var '" ++ name ++ "' does not exist.")

/-- Drags one kept element onto another. -/
def dragAndDrop (setup : Setup) (event : Event) : Act Unit := do
  let source ← require setup event "src"
  let target ← require setup event "dst"
  let stored := (← session).stored
  match stored.get? source, stored.get? target with
  | some dragged, some onto =>
    log ("Dragging '" ++ source ++ "' onto '" ++ target ++ "'.")
    call (.dragAndDrop dragged onto)
  | _, _ =>
    error ("Drag and drop needs stored elements '" ++ source ++ "' and '" ++ target ++ "'.")
    fail .abort

/-- Runs a program and logs what it prints. -/
def execute (setup : Setup) (event : Event) : Act Unit := do
  match ← arguments setup event with
  | [] => fail (.missing event "at least one 'arg' is required")
  | program :: args =>
    log ("Executing process: " ++ " ".intercalate (program :: args))
    match ← perform (.runProcess { program, args }) with
    | .error e => fail (.fault (.process program e.message))
    | .ok finished =>
      (Text.linesOf (Text.decodeAny finished.output)).forM log
      if !finished.status.isSuccess then
        fail (.fault (.process program ("exited with " ++ finished.status.message ++ ": "
          ++ Text.trimmed (Text.decodeAny finished.errors))))

def namedPlugin (setup : Setup) (event : Event) : Act Registration := do
  let name ← require setup event "classname"
  match Registration.named? (Configured.catalog setup.plugins) name with
  | some registration => pure registration
  | none =>
    error ("No plugin named '" ++ name ++ "' is available.")
    fail .abort

/-- Runs a plugin by name. -/
def callPlugin (setup : Setup) (event : Event) (parent : Option Element) : Act Unit := do
  let plugin := (← namedPlugin setup event).plugin
  let args ← arguments setup event
  log ("Running plugin '" ++ plugin.name ++ "'.")
  match ← orAbort (← move (.plugin plugin parent args)) with
  | .ok () => pure ()
  | .error e => fail (.ofError e)

/-- Makes a plugin active by name. -/
def loadPlugin (setup : Setup) (event : Event) : Act Unit := do
  let registration ← namedPlugin setup event
  log ("Loaded plugin '" ++ registration.plugin.name ++ "' for "
    ++ registration.matcher.phase.word ++ " events.")
  say (.record registration.record)
  edit (.activate registration)

/-- The text of a script for the page: that of a file, or the event's own. -/
def pageScript (setup : Setup) (event : Event) : Act String := do
  let file ← action? setup event "file"
  let content ← action? setup event "content"
  match file, content with
  | some file, _ => fill setup (← readFile (path setup file))
  | none, some content => pure content
  | none, none => fail (.missing event "'file' or script text is required")

/-- Runs a script in the page. -/
def javascript (setup : Setup) (event : Event) : Act Unit := do
  let script ← pageScript setup event
  log "Executing javascript."
  let result : String ← call (.executeScript script)
  log ("Javascript result: '" ++ result ++ "'.")

/-- Logs a text. -/
def puts (setup : Setup) (event : Event) : Act Unit := do
  log (← require setup event "txt")

/-- Writes the source of the page to a file. -/
def saveHtml (setup : Setup) (event : Event) : Act Unit := do
  let path := path setup (← require setup event "file")
  let page : String ← call .pageSource
  writeFile path page.toUTF8
  log ("Saved page source to '" ++ path ++ "'.")

/-- Writes a picture of the page to a file. -/
def screenshot (setup : Setup) (event : Event) : Act Unit := do
  let path := path setup (← require setup event "file")
  let image ← call .screenshot
  writeFile path image
  log ("Saved screenshot to '" ++ path ++ "'.")

/-- Loads the script whose events come next. -/
def script (setup : Setup) (event : Event) : Act (List Event) := do
  let path := path setup (← require setup event "file")
  if !setup.canLoad then
    fail (.fault (.config "No script loader is available for 'script' events"))
  match ← perform (.loadScript path) with
  | .ok events =>
    log ("Running script '" ++ path ++ "'.")
    return events
  | .error e => fail (.ofError e)

/-- Renews the time stamp. -/
def timestamp : Act Unit := do
  let now ← move .calendar
  let stamp := Calendar.stamp now
  log ("Setting stamp to '" ++ stamp ++ "'.")
  edit (.putVar "stamp" stamp)

/-- Assigns a variable, or removes it. -/
def var (setup : Setup) (event : Event) : Act Unit := do
  let name ← require setup event "var"
  if event.actions.flag? "unset" == some true then
    edit (.eraseVar name)
    log ("Unset var '" ++ name ++ "'.")
  else
    let value := (← action? setup event "set").getD ""
    log ("Setting var '" ++ name ++ "' to '" ++ value ++ "'.")
    edit (.putVar name value)

/-- The number of seconds an event waits. -/
def waitSecs (setup : Setup) (event : Event) : Act Nat := do
  match ← action? setup event "timeout" with
  | some raw =>
    match Text.readUnsigned? 64 (Text.trimmed raw) with
    | some secs => pure secs
    | none => fail (.invalid "timeout" raw)
  | none => pure defaultWaitSecs

/-- Says how many seconds an event waits. -/
def announceWait (setup : Setup) (event : Event) : Act Nat := do
  let secs ← waitSecs setup event
  log ("Waiting " ++ toString secs ++ " seconds.")
  return secs

/-- Adds or removes a text that page checks pass over. -/
def whitelist (setup : Setup) (event : Event) : Act Unit := do
  let name ← require setup event "name"
  match ((← action? setup event "action").getD "add").toLower with
  | "add" =>
    let content ← require setup event "content"
    log ("Adding whitelist entry '" ++ name ++ "'.")
    edit (.passOver name content)
  | "delete" =>
    if (← session).whitelist.has name then edit (.heed name)
    else warn ("Whitelist entry '" ++ name ++ "' does not exist.")
  | other => fail (.invalid "action" other)

end Act
end PageScript
