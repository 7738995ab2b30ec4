import PageScript.CommandLine.KindList
import PageScript.CommandLine.TestRun

/-!
# Commands

Scripts can be run, checked without running them, and the kinds of events can be listed. Scripts are
taken in order, whatever became of those before; a command over scripts fails if one of them did.
-/

namespace PageScript

structure RunOptions where
  scripts : List String
  /-- The path of the configuration; without one the user's own is taken, if there is one. -/
  config : Option String := none
  /-- Overrides of variables, each with a name and a value. -/
  hijacks : List String := []
  verbose : Bool := false
  /-- Whether the log goes to a file, too. -/
  logFile : Bool := false
  deriving DecidableEq, Repr

/-- A command. -/
inductive Subcommand where
  | run (o : RunOptions)
  | check (scripts : List String)
  | kinds (tag : Option String) (json : Bool)
  deriving DecidableEq, Repr

namespace Subcommand

/-- Whether a command is to tell more. -/
def verbose : Subcommand → Bool
  | .run o => o.verbose
  | _ => false

/-- Whether the log of a command goes to a file, too. -/
def logFile : Subcommand → Bool
  | .run o => o.logFile
  | _ => false

end Subcommand

/-- The configuration with all overrides. -/
def RunOptions.configuration {σ : Type} (o : RunOptions) (h : Host σ) (s : σ) :
    Except Error Config := do
  let config ← h.documents.configAt h.ownConfig s o.config
  match config.addHijacks o.hijacks with
  | (config, none) => return config
  | (_, some e) => throw e

/-- What a command over scripts comes to if so many of them failed. -/
def failures (failed total : Nat) : Except Error Unit :=
  if failed = 0 then .ok () else .error (.testsFailed failed total)

def Shown.listKinds {σ : Type} (tag : Option String) (json : Bool) : Shown σ (Except Error Unit) := do
  match KindList.printed tag json with
  | .ok lines =>
    lines.forM print
    return .ok ()
  | .error e => return .error e

namespace Host

variable {σ : Type} (h : Host σ)

/-- Runs one of several scripts; tells whether it passed. -/
def runOne (config : Config) (verbose : Bool) (path : String) : Shown σ Bool := do
  match ← h.runScript config verbose path with
  | .ok result => return result.passed
  | .error e =>
    Shown.print ("\n✗ " ++ path ++ ": " ++ e.message ++ "\n")
    return false

/-- Runs scripts in order; tells which of them passed. -/
def runEach (config : Config) (verbose : Bool) (paths : List String) : Shown σ (List Bool) :=
  paths.mapM (h.runOne config verbose)

/-- Runs scripts. -/
def runScripts (o : RunOptions) : Shown σ (Except Error Unit) := do
  match o.configuration h (← get).surroundings with
  | .error e => return .error e
  | .ok config =>
    let passed ← h.runEach config o.verbose o.scripts
    let total := passed.length
    let failed := passed.count false
    if 1 < total then
      Shown.print (toString (total - failed) ++ " passed, " ++ toString failed ++ " failed")
    return failures failed total

/-- Checks one of several scripts; tells whether it can be run. -/
def checkOne (path : String) : Shown σ Bool := do
  match ← h.load path with
  | .ok (script, events) =>
    Shown.print ("✓ " ++ path ++ " (" ++ script.name ++ ", " ++ toString (Event.countAll events)
      ++ " events)")
    return true
  | .error e =>
    Shown.print ("✗ " ++ path ++ ": " ++ e.message)
    return false

def checkScripts (paths : List String) : Shown σ (Except Error Unit) := do
  let passed ← paths.mapM h.checkOne
  return failures (passed.count false) passed.length

/-- Carries out a command. -/
def dispatch : Subcommand → Shown σ (Except Error Unit)
  | .run o => h.runScripts o
  | .check scripts => h.checkScripts scripts
  | .kinds tag json => Shown.listKinds tag json

end Host

/-- Carries out a command on a machine. -/
def Shown.dispatch (m : Machine) (c : Subcommand) :
    Shown (Surroundings Rehearsal) (Except Error Unit) :=
  m.host.dispatch c

end PageScript
