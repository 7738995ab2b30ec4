import PageScript.Plugin.Basic
import PageScript.Text.Blank
import PageScript.Text.Quoted
import PageScript.Text.Utf8

/-!
# Plugins that run programs

A program runs with substituted arguments, and learns of the test and of the element at hand from
its environment. What it prints is logged; ending badly is a failure.
-/

namespace PageScript

/-- A plugin that runs a program. -/
structure CommandPlugin where
  name : String
  command : String
  args : List String := []
  deriving DecidableEq, Repr

namespace CommandPlugin

/-- The arguments of one run: the plugin's own, substituted, and those of the caller. -/
def arguments (p : CommandPlugin) (c : PluginContext) : List String :=
  p.args.map (substitute c.hijacks c.vars) ++ c.args

/-- The program of one run. -/
def process (p : CommandPlugin) (c : PluginContext) : Process where
  program := p.command
  args := p.arguments c
  env := ("VDD_TEST_NAME", c.testName) ::
    (c.element.map fun e => ("VDD_ELEMENT_ID", e.id)).toList

/-- The lines of an output that are not blank. -/
def shownLines (output : ByteArray) : List String :=
  (Text.linesOf (Text.decodeAny output)).filter fun line => !line.toList.all Text.isBlank

/-- Runs the program and logs what it prints. -/
def execute (p : CommandPlugin) (c : PluginContext) : Task (Except Error Unit) := do
  let args := Text.quotedList ((p.arguments c).map Text.quoted)
  Task.say (.note .debug .programs "Running plugin command"
    [("plugin", p.name), ("command", p.command), ("args", args)])
  match ← Task.act (.runProcess (p.process c)) with
  | .error e => return .error (.plugin p.name ("failed to start: " ++ e.message))
  | .ok finished =>
    (shownLines finished.output).forM fun line => Task.say (.log (p.name ++ ": " ++ line))
    if finished.status.isSuccess then return .ok ()
    else
      return .error (.plugin p.name ("exited with " ++ finished.status.message ++ ": "
        ++ Text.trimmed (Text.decodeAny finished.errors)))

/-- The plugin as such. -/
def toPlugin (p : CommandPlugin) : Plugin where
  name := p.name
  execute := p.execute

end CommandPlugin
end PageScript
