import PageScript.Host.Shell
import PageScript.Run.Outside

/-!
# Surroundings

A browser together with files, programs and scripts: everything that a run acts on. What answers for
the files, programs and scripts are services with a state of their own, which nothing here depends
on. The services of a tree of files are those of the simulated machine: work on files gives way to
others without taking time, and programs come to their end at once, or never.
-/

namespace PageScript

/-- What a run may ask for besides the browser, and how it is answered in a state of the services. -/
structure Services (φ : Type) where
  readFile (path : String) (f : φ) : Conduct φ (Except FileError String)
  writeFile (path : String) (content : ByteArray) (f : φ) : Conduct φ (Except FileError Unit)
  runProcess (p : Process) (f : φ) : Conduct φ (Except StartError Finished)
  loadScript (path : String) (f : φ) : Conduct φ (Except Error (List Event))

/-- What a run acts on: a browser and files. -/
structure Surroundings (β : Type) (φ : Type := Files) where
  browser : β
  files : φ

namespace Surroundings

variable {β φ : Type}

/-- A browser beside services: neither knows of the other. -/
def serving (browse : (c : Call) → β → Conduct β (Except BrowserError c.Answer))
    (v : Services φ) : Outside (Surroundings β φ)
  | .call c, s => (browse c s.browser).mapState fun browser => { s with browser }
  | .readFile path, s => (v.readFile path s.files).mapState fun files => { s with files }
  | .writeFile path content, s =>
    (v.writeFile path content s.files).mapState fun files => { s with files }
  | .runProcess p, s => (v.runProcess p s.files).mapState fun files => { s with files }
  | .loadScript path, s => (v.loadScript path s.files).mapState fun files => { s with files }

end Surroundings

/-! ## A tree of files -/

/-- Whether programs come to their end. -/
inductive ProgramPace where
  | atOnce
  | never
  deriving DecidableEq, Repr

/-- Where scripts are loaded from: what happens meanwhile, and the events or why there are none. -/
abbrev ScriptSource := Files → String → List Beat × Except Error (List Event)

namespace Files

def writing (f : Files) (path : String) (content : ByteArray) :
    Conduct Files (Except FileError Unit) :=
  match f.write path content with
  | .ok f => (Conduct.answer f (.ok ())).after [.giveWay]
  | .error e => (Conduct.answer f (.error e)).after [.giveWay]

/-- Runs a program. -/
def running (pace : ProgramPace) (env : Bindings String) (f : Files) (p : Process) :
    Conduct Files (Except StartError Finished) :=
  match Shell.run f env p, pace with
  | .error e, _ => .answer f (.error e)
  | .ok (finished, f), .atOnce => (Conduct.answer f (.ok finished)).after [.giveWay]
  | .ok _, .never => { start := f, ending := none }

/-- The services of a tree of files. -/
def services (pace : ProgramPace) (env : Bindings String) (source : ScriptSource) :
    Services Files where
  readFile path f := (Conduct.answer f (f.readText path)).after [.giveWay]
  writeFile path content f := f.writing path content
  runProcess p f := f.running pace env p
  loadScript path f :=
    let (beats, answer) := source f path
    (Conduct.answer f answer).after beats

end Files

/-- A browser beside a tree of files. -/
def Surroundings.outside {β : Type}
    (browse : (c : Call) → β → Conduct β (Except BrowserError c.Answer))
    (pace : ProgramPace) (env : Bindings String) (source : ScriptSource) :
    Outside (Surroundings β) :=
  serving browse (Files.services pace env source)

/-- Scripts in a table by path. -/
def ScriptSource.ofTable (table : Bindings (Except Error (List Event))) : ScriptSource :=
  fun _ path =>
    ([], match table.get? path with
      | some answer => answer
      | none => .error (.fileRead path "not in the table"))

end PageScript
