import PageScript.Browser.Rehearsal
import PageScript.Host.Surroundings

/-!
# Transcripts

What commands act on, and what they have shown so far: lines on the standard output and records for
the log. Commands are steps that lengthen a transcript.
-/

namespace PageScript

/-- What commands act on, and what they have shown so far. -/
structure Transcript (σ : Type) where
  /-- What the runs of all tests of a command act on, each on what the one before has left. -/
  surroundings : σ
  printed : List String := []
  records : List Record := []

namespace Transcript

/-- The start of a transcript over some files. -/
def start {φ : Type} (files : φ) : Transcript (Surroundings Rehearsal φ) where
  surroundings := { browser := {}, files }

/-- The files as they are by now. -/
def files {φ : Type} (t : Transcript (Surroundings Rehearsal φ)) : φ := t.surroundings.files

/-- All that was printed, where each piece ends with a line feed. -/
def output {σ : Type} (t : Transcript σ) : String :=
  String.join (t.printed.map (· ++ "\n"))

end Transcript

/-- A step that lengthens a transcript. -/
abbrev Shown (σ : Type) := StateM (Transcript σ)

namespace Shown

variable {σ : Type}

/-- Prints a piece of text and a line feed. -/
def print (text : String) : Shown σ Unit :=
  modify fun t => { t with printed := t.printed ++ [text] }

/-- Puts records into the log. -/
def note (records : List Record) : Shown σ Unit :=
  modify fun t => { t with records := t.records ++ records }

end Shown
end PageScript
