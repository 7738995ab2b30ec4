import PageScript.Run.Worker
import PageScript.Template

/-!
# Plugins

A plugin has a name and a task, which it carries out on what it is shown of the run. A registration
pairs a plugin with the matcher that says when it runs. Active registrations run in the order they
were added; the catalog holds plugins that scripts may call by name, the last one of a name.
-/

namespace PageScript

/-- What a plugin is shown of a run. -/
structure PluginContext where
  /-- The element of the event at hand, if it has one. -/
  element : Option Element
  vars : Vars
  hijacks : Hijacks
  testName : String
  /-- Positional arguments, where a script calls the plugin. -/
  args : List String

/-- A named piece of work that runs at a phase. -/
structure Plugin where
  name : String
  execute : PluginContext → Task (Except Error Unit)

/-- Runs a plugin under a guard, unless a stop that the guard heeds has come before. -/
def Plugin.run (p : Plugin) (g : Guard) (phase : Option Phase) (c : PluginContext) :
    Worker (Except Cut (Except Error Unit)) :=
  Worker.unlessStopped g do
    Worker.tell (.pluginStarted p.name phase)
    let result ← Task.under g (p.execute c)
    match result with
    | .ok _ => Worker.tell (.pluginEnded p.name phase)
    | .error _ => Worker.tell (.pluginLeft p.name phase)
    return result

/-- A plugin with the matcher that says when it runs. -/
structure Registration where
  matcher : Matcher
  plugin : Plugin

namespace Registration

/-- The plugins that run at a phase of an event with the given tag, in order. -/
def accepting (registry : List Registration) (phase : Phase) (tag : Option String) :
    List Plugin :=
  (registry.filter (·.matcher.accepts phase tag)).map (·.plugin)

/-- The last registration of a name. -/
def named? (catalog : List Registration) (name : String) : Option Registration :=
  catalog.findRev? (·.plugin.name == name)

/-- The record of the log that a plugin is active from now on. -/
def record (r : Registration) : Record :=
  Level.debug.record .registry "Registered plugin"
    [("plugin", r.plugin.name), ("phase", r.matcher.phase.word)]

end Registration

/-- A configured plugin: whether it is active from the start or only in the catalog. -/
structure Configured where
  registration : Registration
  onlyCatalog : Bool := false

namespace Configured

/-- The registrations that are active from the start. -/
def active (configured : List Configured) : List Registration :=
  (configured.filter (!·.onlyCatalog)).map (·.registration)

/-- The registrations that scripts may call by name. -/
def catalog (configured : List Configured) : List Registration :=
  configured.map (·.registration)

end Configured
end PageScript
