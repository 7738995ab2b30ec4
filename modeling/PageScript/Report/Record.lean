/-!
# Log records

What goes to the log: a level, the topic it belongs to, a message, and named fields in order.
-/

namespace PageScript

/-- How grave a record is, from the gravest to the slightest. -/
inductive Level where
  | error | warn | info | debug | trace
  deriving DecidableEq, Repr

def Level.word : Level → String
  | .error => "ERROR"
  | .warn => "WARN"
  | .info => "INFO"
  | .debug => "DEBUG"
  | .trace => "TRACE"

/-- Levels by number, the gravest first. -/
def Level.rank : Level → Nat
  | .error => 1
  | .warn => 2
  | .info => 3
  | .debug => 4
  | .trace => 5

/-- The parts of the program that records come from. -/
inductive Topic where
  | building | traversal | commands | elements | watchdog | reports | rehearsal | registry
  | programs | scripts | logFile | commandLine
  deriving DecidableEq, Repr

/-- The path of a topic, by which filters name it. -/
def Topic.path : Topic → String
  | .building => "voodoo::event::factory"
  | .traversal => "voodoo::interp::event_loop"
  | .commands => "voodoo::interp::commands"
  | .elements => "voodoo::interp::elements"
  | .watchdog => "voodoo::interp::watchdog"
  | .reports => "voodoo::report"
  | .rehearsal => "voodoo::dry_run"
  | .registry => "voodoo::plugin::registry"
  | .programs => "voodoo::plugin::command"
  | .scripts => "voodoo::testing::config"
  | .logFile => "voodoo::common::logging"
  | .commandLine => "vdd"

/-- One record of the log. -/
structure Record where
  level : Level
  /-- What part of the program the record comes from. -/
  topic : Topic
  message : String
  fields : List (String × String) := []
  /-- The names of fields that have no value this time. -/
  unset : List String := []
  deriving DecidableEq, Repr

/-- A record of a level, all of whose fields have values. -/
def Level.record (level : Level) (topic : Topic) (message : String)
    (fields : List (String × String) := []) : Record :=
  { level, topic, message, fields }

/-- Whether a record has a field of a name, with or without a value. -/
def Record.hasField (r : Record) (name : String) : Bool :=
  name == "message" || r.fields.any (·.1 == name) || r.unset.contains name

/-- A record as a line of the log: its level, topic and message, and then its fields. -/
def Record.line (r : Record) : String :=
  let fields := r.fields.map fun (name, value) => " " ++ name ++ "=" ++ value
  r.level.word ++ " " ++ r.topic.path ++ ": " ++ r.message ++ String.join fields

end PageScript
