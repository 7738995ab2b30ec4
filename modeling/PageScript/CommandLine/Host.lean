import PageScript.Browser.Rehearsal
import PageScript.Calendar
import PageScript.Host.Documents
import PageScript.Host.Folders

/-!
# Hosts

What commands ask of the machine they are given on: documents, an outside for the runs of scripts,
and the date. A host is any machine that offers this, and commands are written for all of them. The
program itself makes its host of a backend, which offers everything but a browser, and the browser
of dry runs.
-/

namespace PageScript

/-- A machine that commands can be given on, with states of a type. -/
structure Host (σ : Type) where
  documents : Documents σ
  outside : Outside σ
  /-- The path of the user's own configuration, if there is a place for one. -/
  ownConfig : Option String := none
  calendar : Calendar

/-- What a host has besides a browser. -/
structure Backend (φ : Type) where
  documents : Documents φ
  services : Services φ
  ownConfig : Option String := none
  calendar : Calendar

/-- The browser of dry runs beside services. -/
def Services.rehearsal {φ : Type} (v : Services φ) : Outside (Surroundings Rehearsal φ) :=
  Surroundings.serving (fun c r => Rehearsal.conduct r c) v

/-- The backend with the browser of dry runs. -/
def Backend.rehearsing {φ : Type} (b : Backend φ) : Host (Surroundings Rehearsal φ) where
  documents := b.documents.within (·.files)
  outside := b.services.rehearsal
  ownConfig := b.ownConfig
  calendar := b.calendar

/-- What is around the program when it starts. -/
structure Machine where
  env : Bindings String := []
  calendar : Calendar
  /-- Whether the programs that tests start come to their end. -/
  pace : ProgramPace := .atOnce

namespace Machine

/-- The backend of a machine whose files have been taken into memory. -/
def backend (m : Machine) : Backend Files where
  documents := Files.documents
  services := Files.services m.pace m.env .ofFiles
  ownConfig := some (Folders.configFile m.env)
  calendar := m.calendar

/-- The host that the program runs its commands on. -/
def host (m : Machine) : Host (Surroundings Rehearsal) := m.backend.rehearsing

end Machine
end PageScript
