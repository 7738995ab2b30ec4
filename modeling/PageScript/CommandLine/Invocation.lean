import PageScript.CommandLine.Arguments
import PageScript.Report.LogFilter

/-!
# The whole program

From the arguments to what is left behind: a code, the printed text, warnings, the reason of a
failure, the records that pass the filter of the log, and the files. If the log is to go to a file,
too, the same records are added to it; where that is not possible, a warning says so.
-/

namespace PageScript

/-- What the program leaves behind. -/
structure Closing where
  /-- Zero if all is well, one if the command failed, two if there was none, and another number if
  the program broke off because the filter of the log could not be cut into its pieces. -/
  code : Nat
  printed : String := ""
  warnings : List String := []
  failure : Option Error := none
  /-- The records that were shown. -/
  logged : List Record := []
  files : Files

namespace Invocation

def programName : String := "vdd"

/-- The line that tells the version. -/
def versionLine : String := programName ++ " 0.1.0"

/-- The text that tells how the program is used. -/
def helpText : String :=
  "Browser acceptance test driver\n\n"
    ++ "Usage: vdd run [-c CONFIG] [-H NAME=VALUE]... [-v] [--log-file] SCRIPT...\n"
    ++ "       vdd check SCRIPT...\n"
    ++ "       vdd kinds [--json] [TAG]"

/-- A log file that is open, or why there is none. -/
structure LogFile where
  path : Option String := none
  warnings : List String := []

/-- Opens the log file, for which folders are made if they are missing. -/
def openLog (env : Bindings String) (f : Files) : LogFile × Files :=
  match f.ensureLogs env with
  | .error e => ({ warnings := ["Warning: Could not create log directory: " ++ e.message] }, f)
  | .ok f =>
    let path := Folders.logFile env programName
    match f.append path .empty with
    | .error e => ({ warnings := ["Warning: Could not open log file: " ++ e.message] }, f)
    | .ok f => ({ path := some path }, f)

/-- The records that a log file is open. -/
def opened (path : String) : List Record :=
  [Level.debug.record .logFile "Logging to file" [("path", path)],
    Level.info.record .commandLine "Logging to file" [("path", path)]]

/-- Adds records to the log file. -/
def addLog (log : LogFile) (records : List Record) (f : Files) : Files :=
  match log.path with
  | none => f
  | some path =>
    (f.append path (String.join (records.map fun r => r.line ++ "\n")).toUTF8).toOption.getD f

/-- The code of a program that breaks off. -/
def brokenOff : Nat := 101

/-- Carries out a command. -/
def perform (m : Machine) (files : Files) (c : Subcommand) : Closing :=
  -- the log is opened before anything else happens
  let (log, files) := if c.logFile then openLog m.env files else ({}, files)
  let start := { Transcript.start files with records := (log.path.map opened).getD [] }
  let (result, t) := (Shown.dispatch m c).run start
  match LogFilter.choose? (m.env.get? "RUST_LOG") c.verbose with
  | none => { code := brokenOff, warnings := log.warnings, files }
  | some filter =>
    let logged := t.records.filter filter.passes
    let closing : Closing :=
      { code := 0
        printed := t.output
        warnings := log.warnings
        logged
        files := addLog log logged t.files }
    match result with
    | .ok () => closing
    | .error e => { closing with code := 1, failure := some e }

end Invocation

/-- Runs the program with some arguments. -/
def Machine.invoke (m : Machine) (files : Files) (args : List String) : Closing :=
  match Asked.ofArguments args with
  | .command c => Invocation.perform m files c
  | .version => { code := 0, printed := Invocation.versionLine ++ "\n", files }
  | .help => { code := 0, printed := Invocation.helpText ++ "\n", files }
  | .misuse => { code := 2, files }

end PageScript
