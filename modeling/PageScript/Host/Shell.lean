import PageScript.Host.ShellLine
import PageScript.Host.Tools

/-!
# The shell

A shell that runs lines of everyday programs with variables, lists, pipes and redirection, and the
start of a program on a simulated host.
-/

namespace PageScript
namespace Shell

/-- The value of a variable or special parameter. -/
def valueOf (s : Shell) (name : String) : String :=
  match name with
  | "?" => toString s.status
  | "$" => "1"
  | "#" => "0"
  | "0" => "sh"
  | name => (s.env.get? name).getD ""

/-- The fields of a value that is not quoted. -/
def fieldsOf (value : String) : List (List Char) :=
  let blank := fun c : Char => c == ' ' || c == '\t' || c == '\n'
  (((value.toList.splitBy fun a b => blank a == blank b)).filter fun f => !f.any blank)

/-- Adds a piece of a word to the fields made so far. -/
def addPiece (s : Shell) (fields : List (List Char)) : WordPiece → List (List Char)
  | .text t => fields.dropLast ++ [fields.getLast?.getD [] ++ t]
  | .variable name true => fields.dropLast ++ [fields.getLast?.getD [] ++ (s.valueOf name).toList]
  -- a value without quotes is cut at blanks, and its first field joins the word before it
  | .variable name false =>
    match fieldsOf (s.valueOf name) with
    | [] => fields
    | first :: rest => fields.dropLast ++ [fields.getLast?.getD [] ++ first] ++ rest

/-- The words that a word of a line stands for. -/
def expand (s : Shell) (pieces : List WordPiece) (quoted : Bool) : List String :=
  let fields := pieces.foldl s.addPiece []
  if fields.isEmpty then (if quoted then [""] else [])
  else fields.map String.ofList

/-- One command: its words and its redirections. -/
structure Command where
  words : List (List WordPiece × Bool) := []
  /-- Signs of redirection with the words after them. -/
  redirections : List (String × (List WordPiece × Bool)) := []

/-- Whether a sign sends a stream somewhere else. -/
def isRedirection (sign : String) : Bool :=
  sign.endsWith ">" || sign.endsWith ">&" || sign.endsWith "<"

/-- The command up to the first sign that is no redirection, and the tokens from there on. -/
def takeCommand : List ShellToken → Command × List ShellToken
  | .word ps q :: r =>
    let (c, rest) := takeCommand r
    ({ c with words := (ps, q) :: c.words }, rest)
  | .sign sign :: .word ps q :: r =>
    if isRedirection sign then
      let (c, rest) := takeCommand r
      ({ c with redirections := (sign, (ps, q)) :: c.redirections }, rest)
    else ({}, .sign sign :: .word ps q :: r)
  | r => ({}, r)

/-- Assigns a variable if a word is an assignment. -/
def assignment? (word : String) : Option (String × String) :=
  match Text.cutOnce '=' word.toList with
  | some (name, value) =>
    if !name.isEmpty && name.all ShellToken.isNameChar && !name.head?.any Char.isDigit then
      some (String.ofList name, String.ofList value)
    else none
  | none => none

/-- Ends the shell, with the status of the last command unless another one is given. -/
def exit (s : Shell) (status : Option String) : Shell :=
  match status with
  | none => { s with ended := some (.code s.status) }
  | some word =>
    match Text.readDigits? 10 word.toList with
    | some n => { s with ended := some (.code (n % 256)) }
    | none =>
      { s.complain ("sh: 1: exit: Illegal number: " ++ word ++ "\n") with ended := some (.code 2) }

/-- Puts a program in the place of the shell, which ends with it. -/
def become (s : Shell) : List String → Shell
  | [] => s.finish 0
  | name :: args =>
    match tool? false name with
    | some run =>
      let done := run args s
      { done with ended := some (done.ended.getD (.code done.status)) }
    | none =>
      { s.complain ("sh: 1: exec: " ++ name ++ ": not found\n") with ended := some (.code 127) }

/-- Runs the words of a command. -/
def runWords (s : Shell) : List String → Shell
  | [] => s.finish 0
  | name :: args =>
    match name, assignment? name with
    | _, some (n, v) =>
      if args.isEmpty then { s with env := s.env.put n v }.finish 0
      else (runWords { s with env := s.env.put n v } args)
    | "exit", none => s.exit args.head?
    | "kill", none => s.kill args
    | ":", none => s.finish 0
    | "export", none => { s with env := s.env.putAll (args.filterMap assignment?) }.finish 0
    | "exec", none => s.become args
    | name, none =>
      match tool? true name with
      | some run => run args s
      | none => (s.complain ("sh: 1: " ++ name ++ ": not found\n")).finish 127
termination_by words => words.length

/-- Where the outputs of a command go. -/
structure Streams where
  /-- The file that the output goes to, and whether at its end. -/
  output : Option (String × Bool) := none
  errors : Option (String × Bool) := none
  outputToErrors : Bool := false
  errorsToOutput : Bool := false
  input : Option String := none

/-- Takes a redirection into account. -/
def Streams.redirect (t : Streams) (sign target : String) : Streams :=
  match sign with
  | ">" | "1>" => { t with output := some (target, false), outputToErrors := false }
  | ">>" | "1>>" => { t with output := some (target, true), outputToErrors := false }
  | "2>" => { t with errors := some (target, false) }
  | "2>>" => { t with errors := some (target, true) }
  | ">&" | "1>&" => if target == "2" then { t with outputToErrors := true } else t
  | "2>&" =>
    if target == "1" then
      match t.output with
      | some (file, _) => { t with errors := some (file, true) }
      | none => { t with errorsToOutput := true }
    else t
  | "<" | "0<" => { t with input := some target }
  | _ => t

/-- Writes what a command has printed to a file; the place where all output vanishes takes it. -/
def toFile (s : Shell) (target : String × Bool) (bytes : ByteArray) : Shell :=
  if target.1 == "/dev/null" then s
  else
    match if target.2 then s.files.append target.1 bytes else s.files.write target.1 bytes with
    | .ok files => { s with files }
    | .error e =>
      let why := if e = .notFound then "Directory nonexistent" else plainMessage e
      (s.complain ("sh: 1: cannot create " ++ target.1 ++ ": " ++ why ++ "\n")).finish 2

/-- Runs a command with its redirections; what it prints is kept apart until it is done. -/
def runCommand (s : Shell) (c : Command) : Shell :=
  let streams := c.redirections.foldl
    (fun (t : Streams) (sign, ps, q) => t.redirect sign ((s.expand ps q).head?.getD "")) {}
  let words := c.words.flatMap fun (ps, q) => s.expand ps q
  let given : Except FileError ByteArray :=
    match streams.input with
    | none => .ok s.input
    | some "/dev/null" => .ok .empty
    | some file => s.files.readBytes file
  match given with
  | .error e =>
    let file := streams.input.getD ""
    let why := if e = .notFound then "No such file" else plainMessage e
    (s.complain ("sh: 1: cannot open " ++ file ++ ": " ++ why ++ "\n")).finish 2
  | .ok input =>
    -- the file is emptied before the command runs, even if it then prints nothing
    let opened := match streams.output with
      | some (file, again) => s.toFile (file, again) .empty
      | none => s
    if opened.errors.size != s.errors.size then opened
    else
      let done := runWords { opened with input, output := .empty, errors := .empty } words
      let base := { done with output := s.output, errors := s.errors, input := s.input }
      let base := match streams.errors with
        | some target => base.toFile target done.errors
        | none =>
          if streams.errorsToOutput then { base with output := base.output ++ done.errors }
          else { base with errors := base.errors ++ done.errors }
      if streams.outputToErrors then { base with errors := base.errors ++ done.output }
      else
        match streams.output with
        | some (file, _) => base.toFile (file, true) done.output
        | none => { base with output := base.output ++ done.output }

theorem length_takeCommand_le (ts : List ShellToken) :
    (takeCommand ts).2.length ≤ ts.length := by
  fun_induction takeCommand ts <;> simp_all <;> omega

/-- Whether the tokens start with a command, whose redirections may stand before its words. -/
def startsCommand : List ShellToken → Bool
  | .word _ _ :: _ => true
  | .sign sign :: .word _ _ :: _ => isRedirection sign
  | _ => false

theorem length_takeCommand_lt {ts : List ShellToken} (h : startsCommand ts = true) :
    (takeCommand ts).2.length < ts.length := by
  fun_cases startsCommand ts with
  | case1 ps q r =>
    have := length_takeCommand_le r
    simp only [takeCommand, List.length_cons]
    omega
  | case2 sign ps q r =>
    have := length_takeCommand_le r
    simp only [startsCommand] at h
    simp only [takeCommand, h, if_true, List.length_cons]
    omega
  | case3 => simp_all [startsCommand]

/-- Whether the command after a sign runs, by the status of the one before. -/
def runsAfter (status : Nat) : ShellToken → Bool
  | .sign "&&" => status == 0
  | .sign "||" => status != 0
  | _ => true

/-- Runs a line: commands joined by signs. A pipe hands on what was printed; after two ampersands a
command runs only if the one before went well, after two bars only if it did not. -/
def runLine (s : Shell) (runs : Bool) : List ShellToken → Shell
  | [] => s
  | t :: r =>
    if s.ended.isSome then s
    else if _ : startsCommand (t :: r) then
      let c := (takeCommand (t :: r)).1
      let rest := (takeCommand (t :: r)).2
      if rest.head? == some (.sign "|") then
        let done := if runs then runCommand { s with output := .empty } c else s
        runLine { done with input := done.output, output := s.output } runs rest.tail
      else runLine (if runs then runCommand s c else s) runs rest
    else runLine s (runsAfter s.status t) r
termination_by ts => ts.length
decreasing_by
  · have := length_takeCommand_lt ‹startsCommand (t :: r) = true›
    rw [List.length_tail]
    omega
  · exact length_takeCommand_lt ‹startsCommand (t :: r) = true›
  · exact Nat.lt_succ_self _

/-- Runs the shell with its arguments. -/
def sh (args : List String) (s : Shell) : Shell :=
  match args with
  | "-c" :: line :: _ => runLine s true (ShellToken.ofText line)
  | "-ec" :: line :: _ => runLine s true (ShellToken.ofText line)
  | _ => s.finish 0

/-- The directories in which programs lie. -/
def programDirs : List String := ["/bin/", "/usr/bin/"]

/-- The name of an everyday program, if a name or path means one. -/
def programName? (path : String) : Option String :=
  let known := fun name : String =>
    if name == "sh" || name == "bash" || name == "dash" || (tool? false name).isSome then some name
    else none
  if path.toList.contains '/' then
    programDirs.findSome? fun dir =>
      if path.startsWith dir then known (String.ofList (path.toList.drop dir.length)) else none
  else known path

/-- Whether a text holds a zero byte. -/
def hasNul (s : String) : Bool :=
  s.toList.contains (Char.ofNat 0)

/-- Why a path that names no program cannot be started. -/
def startError (files : Files) (path : String) : StartError :=
  if path.toList.contains '/' then
    match files.find path with
    | .ok _ => .file .permissionDenied
    | .error e => .file e
  else .file .notFound

/-- Runs a program to its end. -/
def run (files : Files) (env : Bindings String) (p : Process) :
    Except StartError (Finished × Files) :=
  if hasNul p.program || p.args.any hasNul then .error .nulByte
  else
    match programName? p.program with
    | none => .error (startError files p.program)
    | some name =>
      let start : Shell := { files, env := env.putAll p.env }
      let done :=
        match tool? false name with
        | some run => run p.args start
        | none => sh p.args start
      .ok ({ status := done.ended.getD (.code done.status), output := done.output,
             errors := done.errors }, done.files)

end Shell
end PageScript
