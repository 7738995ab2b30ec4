import PageScript.CommandLine.Host
import PageScript.CommandLine.Transcript
import PageScript.Config.Basic
import PageScript.Run.Supervised

/-!
# Running script files

A script file is loaded, built and run on a host, and a short account of it is printed: its name and
description, the counts of its reports, and what it came to. A test passes if it ran to its end and
its reports hold nothing against it.
-/

namespace PageScript

structure TestResult where
  name : String
  /-- The number of events in the script. -/
  events : Nat
  outcome : Outcome
  summary : Summary
  deriving DecidableEq, Repr

namespace TestResult

def passed (r : TestResult) : Bool :=
  r.outcome == .completed && r.summary.passed

/-- The counts of reports, as they are printed. -/
def counts (r : TestResult) : List String :=
  let s := r.summary
  ["  Asserts: " ++ toString s.checksPassed ++ " passed, " ++ toString s.checksFailed ++ " failed",
    "  Errors: " ++ toString s.errors ++ "  Exceptions: " ++ toString s.exceptions
      ++ "  Warnings: " ++ toString s.warnings]

/-- What a test came to, as it is printed. -/
def verdict (r : TestResult) : String :=
  match r.outcome with
  | .completed => if r.passed then "\n✓ Test Passed\n" else "\n✗ Test Failed\n"
  | .stopped => "\n✗ Test Stopped\n"
  | .failed reason => "\n✗ Test Failed: " ++ reason ++ "\n"

end TestResult

/-- What is printed before a test runs. -/
def Script.heading (s : Script) (path : String) (events : Nat) (verbose : Bool) : List String :=
  ["\nRunning Test: " ++ s.name]
    ++ (s.description.map fun d => "  " ++ d).toList
    ++ (if verbose then ["  File: " ++ path, "  Events: " ++ toString events] else [])

namespace Host

variable {σ : Type} (h : Host σ)

/-- Loads a script and builds its events. -/
def load (path : String) : Shown σ (Except Error (Script × List Event)) := do
  match h.documents.readScript (← get).surroundings path with
  | .error e => return .error e
  | .ok script =>
    let built := Event.ofNodes script.nodes
    Shown.note (built.warnings.map BuildWarning.record)
    return built.result.map fun events => (script, events)

/-- Runs events. -/
def runEvents (setup : Setup) (events : List Event) :
    Shown σ (Except Error (Outcome × Summary)) := do
  let t ← get
  match setup.run h.outside h.calendar none events t.surroundings with
  | none => return .error (.internal "Scripts include each other too deeply")
  | some ended =>
    set { t with
      surroundings := ended.world.outside
      records := t.records ++ ended.world.records }
    return .ok (ended.outcome, ended.world.summary)

/-- Runs a script file. -/
def runScript (config : Config) (verbose : Bool) (path : String) :
    Shown σ (Except Error TestResult) := do
  match ← h.load path with
  | .error e => return .error e
  | .ok (script, events) =>
    let count := Event.countAll events
    (script.heading path count verbose).forM Shown.print
    let plugins := config.plugins.map PluginConfig.configured
    Shown.note ((Configured.active plugins).map Registration.record)
    let setup := config.setup script.name plugins (Path.parent? path) true
    match ← h.runEvents setup events with
    | .error e => return .error e
    | .ok (outcome, summary) =>
      let result : TestResult := { name := script.name, events := count, outcome, summary }
      (result.counts ++ [result.verdict]).forM Shown.print
      return .ok result

end Host

/-- Runs a script file in a dry run on a machine. -/
def Shown.runScript (m : Machine) (config : Config) (verbose : Bool) (path : String) :
    Shown (Surroundings Rehearsal) (Except Error TestResult) :=
  m.host.runScript config verbose path

end PageScript
