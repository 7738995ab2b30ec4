import PageScript.Config.Basic
import PageScript.Document.Toml.Read

/-!
# Configurations in TOML documents

A configuration is a table with the names `timeouts`, `hijacks`, `globals`, `plugins` and
`page_checks`, all of which may be missing; other names are passed over. Time limits and plugins may
be tables or lists of their parts in order.
-/

namespace PageScript

namespace Toml

/-- The name under which a moment stands where named texts are wanted. -/
def momentName : String := "$__toml_private_datetime"

/-- Whether a value can be one with several parts. -/
def hasParts : Toml → Bool
  | .table .. | .tables _ | .list _ | .moment _ => true
  | _ => false

/-- A part of a value with several parts, by its name or by its place. -/
def part? (t : Toml) (place : Nat) (name : String) : Option Toml :=
  match t with
  | .table _ entries => Bindings.get? entries name
  | .tables items | .list items => items[place]?
  | _ => none

def asText? : Toml → Option String
  | .text s => some s
  | _ => none

def asFlag? : Toml → Option Bool
  | .flag b => some b
  | _ => none

/-- A natural number. -/
def asNat? : Toml → Option Nat
  | .integer (.ofNat n) => some n
  | _ => none

/-- The items of a list. -/
def asList? : Toml → Option (List Toml)
  | .list items | .tables items => some items
  | _ => none

def asTexts? (t : Toml) : Option (List String) := do
  (← t.asList?).mapM asText?

def asNamedTexts? : Toml → Option (Bindings String)
  | .table _ entries => do
    let texts ← entries.mapM fun (name, t) => (asText? t).map fun s => (name, s)
    return Bindings.sorted texts
  | .moment m => some [(momentName, m)]
  | _ => none

/-- What a part is, if it is there, and otherwise what it is by default. -/
def part (t : Toml) (place : Nat) (name : String) {α : Type} (read : Toml → Option α)
    (default : α) : Option α :=
  match t.part? place name with
  | none => some default
  | some p => read p

/-- Whether a value holds nothing, as what stands beside a word must. -/
def isHollow : Toml → Bool
  | .table _ entries => entries.isEmpty
  | .list items => items.isEmpty
  | _ => false

/-- A word for a phase, alone or as the only name in a table, with something empty. -/
def asPhase? : Toml → Option Phase
  | .text word => Phase.ofWord? word
  | .table _ [(word, t)] => if t.isHollow then Phase.ofWord? word else none
  | _ => none

/-- Time limits. -/
def asTimeouts? (t : Toml) : Option Timeouts := do
  if !t.hasParts then none
  return {
    watchdogSecs := ← t.part 0 "watchdog_secs" asNat? 300
    watchdogPollMs := ← t.part 1 "watchdog_poll_ms" asNat? 1000
    elementSecs := ← t.part 2 "element_secs" asNat? 5
    attachSecs := ← t.part 3 "attach_secs" asNat? 0 }

def asPlugin? (t : Toml) : Option PluginConfig := do
  return {
    name := ← (← t.part? 0 "name").asText?
    phase := ← (← t.part? 1 "phase").asPhase?
    elements := ← t.part 2 "elements" asTexts? []
    command := ← (← t.part? 3 "command").asText?
    args := ← t.part 4 "args" asTexts? []
    onlyCatalog := ← t.part 5 "catalog" asFlag? false }

def asPlugins? (t : Toml) : Option (List PluginConfig) := do
  (← t.asList?).mapM asPlugin?

def asConfig? (t : Toml) : Option Config := do
  return {
    timeouts := ← t.part 0 "timeouts" asTimeouts? {}
    hijacks := ← t.part 1 "hijacks" asNamedTexts? []
    globals := ← t.part 2 "globals" asNamedTexts? []
    plugins := ← t.part 3 "plugins" asPlugins? []
    pageChecks := ← t.part 4 "page_checks" asTexts? [] }

end Toml

/-- Reads the configuration that a TOML text holds. What is wrong with a text is not told. -/
def Config.readToml (text : String) : Except String Config :=
  match (Toml.ofText? text).bind Toml.asConfig? with
  | some config => .ok config
  | none => .error ""

/-- The configuration that a TOML text holds. -/
def Config.ofToml (text : String) : Except Error Config :=
  (readToml text).mapError .configSyntax

end PageScript
