import PageScript.Browser.Basic

/-!
# Errors

Everything that can go wrong while scripts are loaded or run, by cause, and the one place where a
cause is put into words.
-/

namespace PageScript

/-- Why an operation on files failed. -/
inductive FileError where
  | notFound
  | permissionDenied
  | notDirectory
  | isDirectory
  | nameTooLong
  | notUtf8
  | nulByte
  deriving DecidableEq, Repr

/-- The text of a file error. -/
def FileError.message : FileError → String
  | .notFound => "No such file or directory (os error 2)"
  | .permissionDenied => "Permission denied (os error 13)"
  | .notDirectory => "Not a directory (os error 20)"
  | .isDirectory => "Is a directory (os error 21)"
  | .nameTooLong => "File name too long (os error 36)"
  | .notUtf8 => "stream did not contain valid UTF-8"
  | .nulByte => "file name contained an unexpected NUL byte"

/-- Why scripts could not be loaded or run. -/
inductive Error where
  /-- A tag that names no kind, as written. -/
  | unknownKind (tag : String)
  /-- The name of an attribute, in lower case, that the kind of the tag does not have. -/
  | invalidAttribute (name tag : String)
  /-- A file that is no script document. -/
  | scriptSyntax (path details : String)
  | scopeUnderflow
  | browser (cause : BrowserError)
  | plugin (name message : String)
  | process (command message : String)
  | missingAttribute (tag message : String)
  | invalidValue (name value : String)
  | cancelled
  | watchdogExpired (secs : Nat)
  | config (message : String)
  /-- A text that is no configuration. -/
  | configSyntax (details : String)
  | io (message : String)
  | fileRead (path message : String)
  | testsFailed (failed total : Nat)
  | internal (message : String)
  deriving DecidableEq, Repr

namespace Error

/-- The text of an error. -/
def message : Error → String
  | .unknownKind tag => "Unknown event '" ++ tag ++ "'"
  | .invalidAttribute name tag =>
    "Invalid attribute '" ++ name ++ "' for '" ++ tag ++ "' event"
  | .scriptSyntax path details => "Failed to parse script '" ++ path ++ "': " ++ details
  | .scopeUnderflow => "Cannot pop the base variable scope"
  | .browser cause => "Driver error: " ++ cause.message
  | .plugin name message => "Plugin '" ++ name ++ "' failed: " ++ message
  | .process command message => "Command '" ++ command ++ "' failed: " ++ message
  | .missingAttribute tag message => "Missing attribute for '" ++ tag ++ "' event: " ++ message
  | .invalidValue name value =>
    "Invalid value '" ++ value ++ "' for attribute '" ++ name ++ "'"
  | .cancelled => "Run cancelled"
  | .watchdogExpired secs =>
    "Watchdog expired: no activity for " ++ toString secs ++ " seconds"
  | .config message => "Configuration error: " ++ message
  | .configSyntax details => "Invalid configuration file: " ++ details
  | .io message => "IO error: " ++ message
  | .fileRead path message => "Failed to read file '" ++ path ++ "': " ++ message
  | .testsFailed failed total =>
    toString failed ++ " of " ++ toString total ++ " test scripts failed"
  | .internal message => "Internal error: " ++ message

/-- The text of what caused an error, where that is an error of its own. -/
def causes : Error → List String
  | .browser cause => [cause.message]
  | .io message => [message]
  | _ => []

/-- An error followed by its causes. -/
def chain (e : Error) : String :=
  ": ".intercalate (e.message :: e.causes)

/-- Whether an error arises when a script is loaded, before it runs. -/
def isLoadError : Error → Bool
  | .unknownKind _ | .invalidAttribute .. | .scriptSyntax .. => true
  | _ => false

end Error
end PageScript
