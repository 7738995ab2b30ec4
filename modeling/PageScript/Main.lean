import PageScript.CommandLine.Invocation
import Std.Time.Format

/-!
# The program on a real machine

Takes files into memory, runs the program on them, and writes back what it has changed. The files
are those below the working directory, the user's own folders, and the folders of all absolute paths
among the arguments; links are not followed, and large files and deep folders are left out. Programs
that tests start are the everyday ones of the simulated host, and none of the machine's own.
-/

namespace PageScript.Machine

/-- The largest file that is taken into memory, in bytes. -/
def largestFile : Nat := 8388608

/-- How deep folders are taken into memory. -/
def deepestFolder : Nat := 16

/-- The place of an absolute path. -/
def placeOf (path : String) : Place :=
  ((Text.cutAt '/' path.toList).map String.ofList).filter fun part => !part.isEmpty

/-- The absolute path of a place. -/
def pathOf (place : Place) : String := "/" ++ "/".intercalate place

/-- Takes a file or a folder and all that is in it into memory. -/
def takeIn : Nat → Place → Files → IO Files
  | 0, _, f => return f
  | depth + 1, place, f => do
    try
      let path ← IO.FS.realPath (pathOf place)
      if path.toString != pathOf place then return f
      let about ← path.metadata
      match about.type with
      | .dir =>
        let mut f := f.put place .directory
        for item in ← path.readDir do
          f ← takeIn depth (place ++ [item.fileName]) f
        return f
      | .file =>
        if largestFile < about.byteSize.toNat then return f
        return f.put place (.file (← IO.FS.readBinFile path))
      | _ => return f
    catch _ => return f

/-- Takes what stands at a place into memory, and the folders that lead there. -/
def takeInWith (depth : Nat) (place : Place) (f : Files) : IO Files := do
  let mut f := f
  for n in List.range place.length do
    f ← takeIn 1 (place.take n) f
  takeIn depth place f

/-- Takes in all files that the program may need. -/
def filesFor (env : Bindings String) (args : List String) : IO Files := do
  let here := placeOf (← IO.currentDir).toString
  let start : Files := { cwd := here }
  let named := (args.filter Path.isAbsolute).filterMap Path.parent?
  let own := [Folders.config env, Folders.logs env].filter Path.isAbsolute
  let mut f ← takeInWith deepestFolder here start
  for path in named ++ own do
    f ← takeInWith deepestFolder (placeOf path) f
  return f

/-- Writes back what has changed. -/
def writeBack (before after : Files) : IO Unit := do
  for (path, content) in Files.changes before after [] do
    let place := placeOf path
    IO.FS.createDirAll (pathOf place.dropLast)
    IO.FS.writeBinFile (pathOf place) content

/-- The variables of the environment that the program looks at. -/
def environment : IO (Bindings String) := do
  let mut env : Bindings String := []
  for name in ["HOME", "XDG_CONFIG_HOME", "XDG_DATA_HOME", "RUST_LOG", "PATH"] do
    if let some value ← IO.getEnv name then
      env := env.put name value
  return env

/-- The date and the time of day. -/
def today : IO Calendar := do
  let t ← Std.Time.PlainDateTime.now
  return {
    year := t.year.toInt.toNat
    month := t.month.val.toNat
    day := t.day.val.toNat
    hour := t.hour.val.toNat
    minute := t.minute.val.toNat
    second := t.second.val.toNat }

end PageScript.Machine

/-- Runs the program; its code tells whether all went well. -/
def main (args : List String) : IO UInt32 := do
  let env ← PageScript.Machine.environment
  let files ← PageScript.Machine.filesFor env args
  let machine : PageScript.Machine := { env, calendar := ← PageScript.Machine.today }
  let closing := machine.invoke files args
  PageScript.Machine.writeBack files closing.files
  IO.print closing.printed
  closing.warnings.forM IO.eprintln
  closing.logged.forM fun record => IO.eprintln record.line
  if let some failure := closing.failure then
    IO.eprintln ("Error: " ++ failure.message)
  return closing.code.toUInt32
