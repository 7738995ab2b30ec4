import PageScript.Browser.Basic
import PageScript.Error
import PageScript.Event.Basic

/-!
# Actions

What a run asks of the world outside it: a call of the browser, reading and writing files, running
a program, and loading another script. Each action has its type of answers, and each answer says
why the action failed if it did.
-/

namespace PageScript

/-- A program to run: its name or path, its arguments, and what is added to its environment. -/
structure Process where
  program : String
  args : List String := []
  env : List (String × String) := []
  deriving DecidableEq, Repr

/-- How a program ended. -/
inductive ExitStatus where
  | code (n : Nat)
  /-- Ended by a signal, with the signal's name if it has one. -/
  | signal (n : Nat) (name : Option String)
  deriving DecidableEq, Repr

namespace ExitStatus

/-- Whether a program ended well. -/
def isSuccess : ExitStatus → Bool
  | .code n => n == 0
  | .signal .. => false

/-- The text of an exit status. -/
def message : ExitStatus → String
  | .code n => "exit status: " ++ toString n
  | .signal n name =>
    "signal: " ++ toString n ++ ((name.map fun name => " (" ++ name ++ ")").getD "")

end ExitStatus

/-- What a program leaves when it has ended. -/
structure Finished where
  status : ExitStatus
  output : ByteArray := .empty
  errors : ByteArray := .empty

/-- Why a program could not be started. -/
inductive StartError where
  | file (e : FileError)
  /-- The file is no program. -/
  | notExecutable
  /-- The name or an argument holds a zero byte. -/
  | nulByte
  deriving DecidableEq, Repr

/-- The text of a start error. -/
def StartError.message : StartError → String
  | .file e => e.message
  | .notExecutable => "Exec format error (os error 8)"
  | .nulByte => "nul byte found in provided data"

/-- One thing asked of the outside. -/
inductive Action where
  | call (c : Call)
  | readFile (path : String)
  | writeFile (path : String) (content : ByteArray)
  | runProcess (p : Process)
  | loadScript (path : String)

@[reducible] def Action.Answer : Action → Type
  | .call c => Except BrowserError c.Answer
  | .readFile _ => Except FileError String
  | .writeFile .. => Except FileError Unit
  | .runProcess _ => Except StartError Finished
  | .loadScript _ => Except Error (List Event)

end PageScript
