import PageScript.Plugin.Basic

/-!
# Scripted plugins

A plugin that does what it is told, for rehearsing a run: it shows what it was given, and then, as
far as it is told to, shows the variables, logs a line, looks at the page's title, sleeps, stops the
run, waits for ever, and fails.
-/

namespace PageScript

/-- What a scripted plugin does, in this order. -/
structure ScriptedPlugin where
  name : String
  /-- A text that is shown with the variables put in. -/
  echo : Option String := none
  showVars : Bool := false
  log : Option String := none
  title : Bool := false
  sleep : Option Duration := none
  stop : Bool := false
  hang : Bool := false
  failure : Option Error := none

namespace ScriptedPlugin

/-- What the plugin shows first. -/
def sight (p : ScriptedPlugin) (c : PluginContext) : Sight :=
  .visit p.name c.testName (c.element.map (·.id)) c.args
    (p.echo.map (substitute c.hijacks c.vars))

/-- Waits for ever, if told so. -/
def maybeHang (p : ScriptedPlugin) : Task Unit :=
  if p.hang then Task.step .forever >>= fun x => nomatch x else pure ()

/-- Does everything from the sleep on. -/
def finish (p : ScriptedPlugin) : Task (Except Error Unit) := do
  match p.sleep with
  | some d => Task.step (.sleep d)
  | none => pure ()
  if p.stop then Task.stop
  p.maybeHang
  return match p.failure with
    | some e => .error e
    | none => .ok ()

/-- Does what the plugin is told to do. -/
def execute (p : ScriptedPlugin) (c : PluginContext) : Task (Except Error Unit) := do
  Task.say (.sight (p.sight c))
  if p.showVars then Task.say (.sight (.variables c.vars.depth c.vars.visible))
  match p.log with
  | some m => Task.say (.log m)
  | none => pure ()
  if p.title then
    match ← Task.call .title with
    | .error e => return .error (.browser e)
    | .ok _ => p.finish
  else p.finish

/-- The plugin as such. -/
def toPlugin (p : ScriptedPlugin) : Plugin where
  name := p.name
  execute := p.execute

end ScriptedPlugin
end PageScript
