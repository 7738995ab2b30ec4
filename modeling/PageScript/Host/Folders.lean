import PageScript.Host.Files

/-!
# Folders

Where a user's configuration and log files are. The environment may name the folders that hold those
of all programs, by absolute paths; otherwise they are below the user's home.
-/

namespace PageScript

namespace Folders

/-- The name of the program's own folders. -/
def ownName : String := "voodoo-driver"

/-- The home of the user if the environment does not name it. -/
def usualHome : String := "/root"

/-- The home of the user. -/
def home (env : Bindings String) : String :=
  match env.get? "HOME" with
  | some path => if path.isEmpty then usualHome else path
  | none => usualHome

/-- A folder that a variable of the environment names if it holds an absolute path, and that is
otherwise below the home. -/
def shared (env : Bindings String) (variableName below : String) : String :=
  match (env.get? variableName).filter Path.isAbsolute with
  | some path => path
  | none => Path.join (home env) below

def config (env : Bindings String) : String :=
  Path.join (shared env "XDG_CONFIG_HOME" ".config") ownName

/-- The path of the configuration. -/
def configFile (env : Bindings String) : String :=
  Path.join (config env) "config.toml"

/-- The folder of the log files. -/
def logs (env : Bindings String) : String :=
  Path.join (Path.join (shared env "XDG_DATA_HOME" ".local/share") ownName) "logs"

/-- The path of a log file. -/
def logFile (env : Bindings String) (name : String) : String :=
  Path.join (logs env) (name ++ ".log")

end Folders

namespace Files

/-- Makes the folder of the log files if nothing is there. -/
def ensureLogs (f : Files) (env : Bindings String) : Except FileError Files :=
  if f.has (Folders.logs env) then .ok f else f.makeDirectories (Folders.logs env)

end Files
end PageScript
