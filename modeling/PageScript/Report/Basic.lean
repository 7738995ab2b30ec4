import PageScript.Error
import PageScript.Report.Record
import PageScript.Text.Search

/-!
# Reports

What a run tells the author of a test: log lines, warnings, errors, exceptions with their causes,
and checks of a text. Reports are counted; a test passes if there was no error, no exception and no
failed check. Warnings do not count against it.
-/

namespace PageScript

/-- One report of a run. -/
inductive Report where
  | log (message : String)
  | warning (message : String)
  | error (message : String)
  | exception (message : String) (cause : Error)
  /-- `expected` should occur in `text`. -/
  | check (expected text : String)
  /-- `unexpected` should not occur in `text`. -/
  | checkNot (unexpected text : String)
  deriving DecidableEq, Repr

/-- How often each sort of report was made. -/
structure Summary where
  warnings : Nat := 0
  errors : Nat := 0
  exceptions : Nat := 0
  checksPassed : Nat := 0
  checksFailed : Nat := 0
  deriving DecidableEq, Repr

/-- Whether nothing went wrong. -/
def Summary.passed (s : Summary) : Bool :=
  s.errors == 0 && s.exceptions == 0 && s.checksFailed == 0

namespace Report

/-- Whether a check holds; none for a report that checks nothing. -/
def verdict? : Report → Option Bool
  | .check expected text => some (Text.contains text expected)
  | .checkNot unexpected text => some !(Text.contains text unexpected)
  | _ => none

def count (s : Summary) (r : Report) : Summary :=
  match r with
  | .log _ => s
  | .warning _ => { s with warnings := s.warnings + 1 }
  | .error _ => { s with errors := s.errors + 1 }
  | .exception .. => { s with exceptions := s.exceptions + 1 }
  | .check .. | .checkNot .. =>
    if r.verdict? == some true then { s with checksPassed := s.checksPassed + 1 }
    else { s with checksFailed := s.checksFailed + 1 }

/-- The log record of a report. -/
def record (r : Report) : Record :=
  match r with
  | .log m => Level.info.record .reports m
  | .warning m => Level.warn.record .reports m
  | .error m => Level.error.record .reports m
  | .exception m cause => Level.error.record .reports m [("cause", cause.chain)]
  | .check expected _ =>
    if r.verdict? == some true then
      Level.info.record .reports "Assert passed" [("expected", expected)]
    else Level.error.record .reports "Assert failed: text not found" [("expected", expected)]
  | .checkNot unexpected _ =>
    if r.verdict? == some true then
      Level.info.record .reports "AssertNot passed" [("unexpected", unexpected)]
    else Level.error.record .reports "AssertNot failed: text found" [("unexpected", unexpected)]

end Report

/-- The counts of a list of reports. -/
def Summary.ofReports (reports : List Report) : Summary :=
  reports.foldl Report.count {}

end PageScript
