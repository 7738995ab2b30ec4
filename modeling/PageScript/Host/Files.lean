import PageScript.Bindings
import PageScript.Error
import PageScript.Path
import PageScript.Text.Search

/-!
# Files

A tree of directories and files, kept as the list of everything below the root. Paths are followed
part by part: an empty part or a dot stays where it is, two dots go up, and every part must start
from a directory. Nothing is ever removed.
-/

namespace PageScript

/-- What stands at a place in the tree. -/
inductive FileEntry where
  | directory
  | file (content : ByteArray)

namespace FileEntry

/-- Whether a directory stands there. -/
def isDirectory : FileEntry → Bool
  | .directory => true
  | .file _ => false

end FileEntry

/-- A place in the tree: the names from the root down. -/
abbrev Place := List String

/-- A tree of files, and the place that relative paths start from. -/
structure Files where
  entries : List (Place × FileEntry) := []
  cwd : Place := []

namespace Files

/-- What stands at a place; the root is a directory. -/
def entry? (f : Files) (place : Place) : Option FileEntry :=
  if place.isEmpty then some .directory else f.entries.lookup place

/-- Puts something at a place. -/
def put (f : Files) (place : Place) (e : FileEntry) : Files :=
  if (f.entries.lookup place).isSome then
    { f with entries := f.entries.map fun p => if p.1 == place then (place, e) else p }
  else { f with entries := f.entries ++ [(place, e)] }

/-- The longest name of a file, and the length that a path must stay below, in bytes. -/
def longestName : Nat := 255

/-- The length in bytes that a path must stay below. -/
def pathEnd : Nat := 4096

/-- Follows one part of a path. -/
def follow (f : Files) (place : Place) (part : String) : Except FileError Place :=
  match f.entry? place with
  | none => .error .notFound
  | some (.file _) => .error .notDirectory
  | some .directory =>
    if part == "" || part == "." then .ok place
    else if part == ".." then .ok place.dropLast
    else if longestName < part.utf8ByteSize then .error .nameTooLong
    else
      match f.entry? (place ++ [part]) with
      | some _ => .ok (place ++ [part])
      | none => .error .notFound

/-- Follows the parts of a path one after another. -/
def followAll (f : Files) (place : Place) (parts : List String) : Except FileError Place :=
  parts.foldlM f.follow place

/-- Where a path starts and its parts, unless it is no path at all. -/
def partsOf (f : Files) (path : String) : Except FileError (Place × List String) :=
  if path.toList.contains (Char.ofNat 0) then .error .nulByte
  else if path.isEmpty then .error .notFound
  else if pathEnd ≤ path.utf8ByteSize then .error .nameTooLong
  else
    .ok (if Path.isAbsolute path then [] else f.cwd,
      (Text.cutAt '/' path.toList).map String.ofList)

/-- The place that a path leads to, where something stands. -/
def find (f : Files) (path : String) : Except FileError Place := do
  let (start, parts) ← f.partsOf path
  f.followAll start parts

/-- Whether a path leads anywhere. -/
def has (f : Files) (path : String) : Bool :=
  (f.find path).toOption.isSome

/-- Whether a path leads to a directory. -/
def hasDirectory (f : Files) (path : String) : Bool :=
  match f.find path with
  | .ok place => (f.entry? place).any FileEntry.isDirectory
  | .error _ => false

def readBytes (f : Files) (path : String) : Except FileError ByteArray := do
  match f.entry? (← f.find path) with
  | some (.file content) => .ok content
  | some .directory => .error .isDirectory
  | none => .error .notFound

def readText (f : Files) (path : String) : Except FileError String := do
  match String.fromUTF8? (← f.readBytes path) with
  | some text => .ok text
  | none => .error .notUtf8

/-- The place of a file that is to be written, which may be there already. A path that ends with a
slash or with dots names no file. -/
def writePlace (f : Files) (path : String) : Except FileError Place := do
  let (start, parts) ← f.partsOf path
  -- slashes at the end leave empty parts behind
  let named := (parts.reverse.dropWhile (· == "")).reverse
  match named.getLast? with
  | none => .error .isDirectory
  | some name =>
    let place ← f.followAll start named.dropLast
    match f.entry? place with
    | none => .error .notFound
    | some (.file _) => .error .notDirectory
    | some .directory =>
      if named.length < parts.length || name == "." || name == ".." then .error .isDirectory
      else
        match f.follow place name with
        | .ok place =>
          if (f.entry? place).any FileEntry.isDirectory then .error .isDirectory else .ok place
        | .error .notFound => .ok (place ++ [name])
        | .error e => .error e

/-- Writes a file, whatever it held before. -/
def write (f : Files) (path : String) (content : ByteArray) : Except FileError Files := do
  return f.put (← f.writePlace path) (.file content)

/-- Writes at the end of a file, which is made if it is not there. -/
def append (f : Files) (path : String) (content : ByteArray) : Except FileError Files := do
  let place ← f.writePlace path
  match f.entry? place with
  | some (.file old) => return f.put place (.file (old ++ content))
  | _ => return f.put place (.file content)

/-- Goes down into a directory of a name, which is made if nothing is there. -/
def enter (f : Files) (place : Place) (part : String) : Except FileError (Files × Place) :=
  match f.follow place part with
  | .ok place =>
    if (f.entry? place).any FileEntry.isDirectory then .ok (f, place) else .error .notDirectory
  | .error .notFound => .ok (f.put (place ++ [part]) .directory, place ++ [part])
  | .error e => .error e

/-- Makes a directory and all above it that are missing. -/
def makeDirectories (f : Files) (path : String) : Except FileError Files := do
  let (start, parts) ← f.partsOf path
  let (f, _) ← parts.foldlM (fun (f, place) part => f.enter place part) (f, start)
  return f

/-- Everything that lies below a place, with the names from there on. -/
def below (f : Files) (place : Place) : List (Place × FileEntry) :=
  f.entries.filterMap fun (p, e) =>
    if place.isPrefixOf p && place.length < p.length then some (p.drop place.length, e) else none

/-- The files below a place that are new or have another content than before, by path. -/
def changes (before after : Files) (place : Place) : List (String × ByteArray) :=
  let old := before.below place
  let changed := (after.below place).filterMap fun (p, e) =>
    match e, old.lookup p with
    | .directory, _ => none
    | .file content, some (.file c) => if c.data == content.data then none else some (p, content)
    | .file content, _ => some (p, content)
  Bindings.sorted (changed.map fun (p, content) => ("/".intercalate p, content))

end Files
end PageScript
