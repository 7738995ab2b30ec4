import PageScript.Document.TomlConfig
import PageScript.Document.YamlScript
import PageScript.Host.Surroundings

/-!
# Documents

Scripts and configurations are documents in files. A host tells what its files hold, and readers
take the texts for scripts and configurations; what a command makes of both is the same for all of
them. Scripts are read either before a run or while it is under way; in a run this gives way to
others once, and the log tells which script was loaded.
-/

namespace PageScript

/-- The documents of a host whose files are in a state of some type. -/
structure Documents (φ : Type) where
  /-- The text of a file. -/
  readText : φ → String → Except FileError String
  /-- Whether there is anything of a path. -/
  has : φ → String → Bool
  /-- Takes a text for a script, or tells what is wrong with it. -/
  asScript : String → Except String Script
  /-- Takes a text for a configuration, or tells what is wrong with it. -/
  asConfig : String → Except String Config

namespace Documents

variable {φ τ : Type} (d : Documents φ)

def readScript (f : φ) (path : String) : Except Error Script :=
  match d.readText f path with
  | .ok text => (d.asScript text).mapError (.scriptSyntax path)
  | .error e => .error (.fileRead path e.message)

def readConfig (f : φ) (path : String) : Except Error Config :=
  match d.readText f path with
  | .ok text => (d.asConfig text).mapError .configSyntax
  | .error e => .error (.fileRead path e.message)

/-- The configuration of a path, or without one the user's own, if there is one. -/
def configAt (own : Option String) (f : φ) : Option String → Except Error Config
  | some path => d.readConfig f path
  | none =>
    match own with
    | some path => if d.has f path then d.readConfig f path else .ok {}
    | none => .ok {}

/-- The same documents, where the files are a part of a larger state. -/
def within (part : τ → φ) : Documents τ where
  readText s := d.readText (part s)
  has s := d.has (part s)
  asScript := d.asScript
  asConfig := d.asConfig

end Documents

/-- The documents of a tree of files. -/
def Files.documents : Documents Files where
  readText := readText
  has := has
  asScript := Script.readYaml
  asConfig := Config.readToml

/-- The record of the log that a script was loaded. -/
def Script.loaded (s : Script) (path : String) : Record :=
  Level.debug.record .scripts "Loaded script" [("script", s.name), ("path", path)]

def ScriptSource.ofFiles : ScriptSource := fun files path =>
  match Files.documents.readScript files path with
  | .error e => ([.giveWay], .error e)
  | .ok script =>
    let built := Event.ofNodes script.nodes
    ([.giveWay, .note (script.loaded path)] ++ built.warnings.map fun w => .note w.record,
      built.result)

end PageScript
