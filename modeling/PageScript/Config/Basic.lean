import PageScript.Plugin.Command
import PageScript.Run.Session

/-!
# Configuration

What a user sets for all test runs: time limits, values that override variables, global variables,
plugins, and texts that must not be on checked pages. Overrides may be added on the command line.
-/

namespace PageScript

/-- Time limits. -/
structure Timeouts where
  /-- Seconds without progress after which a run fails. -/
  watchdogSecs : Nat := 300
  /-- Milliseconds between two looks at the watchdog. -/
  watchdogPollMs : Nat := 1000
  /-- Seconds for which an element is looked for. -/
  elementSecs : Nat := 5
  /-- Seconds for which a window is looked for. -/
  attachSecs : Nat := 0
  deriving DecidableEq, Repr

/-- The milliseconds between two looks at the watchdog, of which there is at least one. -/
def Timeouts.pollMs (t : Timeouts) : Nat :=
  max t.watchdogPollMs 1

/-- A configured plugin, which runs a program. -/
structure PluginConfig where
  name : String
  phase : Phase
  elements : List String := []
  command : String
  args : List String := []
  /-- Whether scripts have to load the plugin before it is active. -/
  onlyCatalog : Bool := false
  deriving DecidableEq, Repr

/-- The plugin of a configuration entry. -/
def PluginConfig.configured (p : PluginConfig) : Configured where
  registration :=
    { matcher := { phase := p.phase, elements := p.elements }
      plugin := (CommandPlugin.mk p.name p.command p.args).toPlugin }
  onlyCatalog := p.onlyCatalog

structure Config where
  timeouts : Timeouts := {}
  hijacks : Hijacks := []
  globals : Bindings String := []
  plugins : List PluginConfig := []
  pageChecks : List String := []
  deriving DecidableEq, Repr

namespace Config

/-- Adds an override written as a name and a value with an equals sign between them; white space
around the name does not count. -/
def addHijack (c : Config) (arg : String) : Except Error Config :=
  match Text.cutOnce '=' arg.toList with
  | none => .error (.config ("Hijack '" ++ arg ++ "' must have the form key=value"))
  | some (name, value) =>
    .ok { c with
      hijacks := c.hijacks.put (String.ofList (Text.trim name)) (String.ofList value) }

/-- Adds overrides up to the first that is ill written, which is answered as an error. -/
def addHijacks (c : Config) : List String → Config × Option Error
  | [] => (c, none)
  | arg :: rest =>
    match c.addHijack arg with
    | .ok c => c.addHijacks rest
    | .error e => (c, some e)

/-- The settings of a run under a configuration. -/
def setup (c : Config) (testName : String) (plugins : List Configured) (baseDir : Option String)
    (canLoad : Bool) : Setup where
  testName
  watchdogTimeout := .ofSecs c.timeouts.watchdogSecs
  watchdogPoll := .ofMillis c.timeouts.pollMs
  elementPatience := .ofSecs c.timeouts.elementSecs
  attachPatience := .ofSecs c.timeouts.attachSecs
  hijacks := c.hijacks
  globals := c.globals
  pageChecks := c.pageChecks
  baseDir
  plugins
  canLoad

end Config
end PageScript
