import PageScript.Host.Files
import PageScript.Host.Signal
import PageScript.Run.Action
import PageScript.Text.Utf8

/-!
# Everyday programs

The small programs of a simulated host: those that print, compare, and read and make files. What a
program prints is bytes; what it does to files shows in the tree.
-/

namespace PageScript

/-- What a program works with and what it has done so far. -/
structure Shell where
  files : Files
  env : Bindings String := []
  input : ByteArray := .empty
  output : ByteArray := .empty
  errors : ByteArray := .empty
  /-- The status of the last command. -/
  status : Nat := 0
  /-- How the program has ended, if it has. -/
  ended : Option ExitStatus := none

namespace Shell

def print (s : Shell) (text : String) : Shell :=
  { s with output := s.output ++ text.toUTF8 }

/-- Prints a complaint. -/
def complain (s : Shell) (text : String) : Shell :=
  { s with errors := s.errors ++ text.toUTF8 }

/-- Ends a command with a status. -/
def finish (s : Shell) (status : Nat) : Shell :=
  { s with status }

/-- Takes up to three octal digits. -/
def octal : Nat → List Char → List Char × List Char
  | 0, s => ([], s)
  | n + 1, c :: r =>
    if '0' ≤ c ∧ c ≤ '7' then
      let (digits, rest) := octal n r
      (c :: digits, rest)
    else ([], c :: r)
  | _, [] => ([], [])

/-- The character that a letter stands for after a backslash. -/
def escaped? (c : Char) : Option UInt8 :=
  match c with
  | 'a' => some 7
  | 'b' => some 8
  | 'e' => some 27
  | 'f' => some 12
  | 'n' => some 10
  | 'r' => some 13
  | 't' => some 9
  | 'v' => some 11
  | '\\' => some 92
  | _ => none

/-- The bytes of a text in which backslashes escape; `\c` ends all output where `echo` reads it, and
an octal number may have one zero more there. -/
def unescape (echo : Bool) : List Char → List UInt8 × Bool
  | [] => ([], false)
  | '\\' :: c :: r =>
    if echo && c == 'c' then ([], true)
    else
      match escaped? c with
      | some b =>
        let (bytes, ended) := unescape echo r
        (b :: bytes, ended)
      | none =>
        let digits := octal 3 (if echo && c == '0' then r else c :: r)
        if c.isDigit && c ≤ '7' then
          let value := Text.digitsValue 8 (digits.1.map fun d => d.toNat - '0'.toNat)
          let (bytes, ended) := unescape echo (digits.2.drop (digits.2.length - r.length))
          (UInt8.ofNat value :: bytes, ended)
        else
          let (bytes, ended) := unescape echo r
          (92 :: (String.ofList [c]).toUTF8.toList ++ bytes, ended)
  | c :: r =>
    let (bytes, ended) := unescape echo r
    ((String.ofList [c]).toUTF8.toList ++ bytes, ended)
termination_by s => s.length
decreasing_by
  all_goals simp only [List.length_cons, List.length_drop]
  all_goals omega

/-- Prints words with blanks between them; the shell's own reads backslashes. -/
def echo (own : Bool) (args : List String) (s : Shell) : Shell :=
  let (newline, args) :=
    match args with
    | "-n" :: rest => (false, rest)
    | args => (true, args)
  let text := " ".intercalate args
  let (bytes, ended) :=
    if own then unescape true text.toList else (text.toUTF8.toList, false)
  let bytes := if newline && !ended then bytes ++ [10] else bytes
  { s with output := s.output ++ ByteArray.mk bytes.toArray }.finish 0

/-- The bytes of one pass through a format, and the arguments that are left. -/
def formatOnce : List Char → List String → List UInt8 × List String
  | [], args => ([], args)
  | '%' :: '%' :: r, args =>
    let (bytes, args) := formatOnce r args
    (37 :: bytes, args)
  | '%' :: c :: r, args =>
    if c = 's' ∨ c = 'd' ∨ c = 'i' ∨ c = 'b' then
      let word := args.head?.getD (if c = 's' ∨ c = 'b' then "" else "0")
      let (bytes, rest) := formatOnce r args.tail
      ((if c = 'b' then (unescape true word.toList).1 else word.toUTF8.toList) ++ bytes, rest)
    else
      let (bytes, rest) := formatOnce r args
      (37 :: (String.ofList [c]).toUTF8.toList ++ bytes, rest)
  | '\\' :: c :: r, args =>
    let digits := ('\\' :: c :: r).takeWhile fun d => d = '\\' ∨ ('0' ≤ d ∧ d ≤ '7')
    let taken := if '0' ≤ c ∧ c ≤ '7' then min 3 (digits.length - 1) else 1
    let (bytes, rest) := formatOnce ((c :: r).drop taken) args
    ((unescape false ('\\' :: (c :: r).take taken)).1 ++ bytes, rest)
  | c :: r, args =>
    let (bytes, rest) := formatOnce r args
    ((String.ofList [c]).toUTF8.toList ++ bytes, rest)
termination_by s => s.length
decreasing_by
  all_goals simp only [List.length_cons, List.length_drop]
  all_goals omega

/-- The bytes of a format, gone through again as long as arguments are left and taken. -/
def formatAll (format : List Char) : Nat → List String → List UInt8
  | 0, _ => []
  | n + 1, args =>
    let (bytes, rest) := formatOnce format args
    if rest.isEmpty || rest.length = args.length then bytes else bytes ++ formatAll format n rest

/-- Prints arguments as a format says. -/
def printf (args : List String) (s : Shell) : Shell :=
  match args with
  | [] => (s.complain "sh: 1: printf: usage: printf format [arg ...]\n").finish 2
  | format :: rest =>
    let bytes := formatAll format.toList (rest.length + 1) rest
    { s with output := s.output ++ ByteArray.mk bytes.toArray }.finish 0

/-- Compares two integers, if both texts are integers. -/
def compare (f : Int → Int → Bool) (a b : String) : Option Bool :=
  match Text.readInt? 10 a.toList, Text.readInt? 10 b.toList with
  | some a, some b => some (f a b)
  | _, _ => none

/-- Whether the words of a test hold; none if they are no test. -/
def holds (files : Files) : List String → Option Bool
  | [] => some false
  | [a] => some (a != "")
  | ["!", a] => some (a == "")
  | ["-n", a] => some (a != "")
  | ["-z", a] => some (a == "")
  | ["-e", a] => some (files.has a)
  | ["-f", a] => some (files.has a && !files.hasDirectory a)
  | ["-d", a] => some (files.hasDirectory a)
  | ["-s", a] => some ((files.readBytes a).toOption.any fun b => b.size != 0)
  | [a, "=", b] => some (a == b)
  | [a, "==", b] => some (a == b)
  | [a, "!=", b] => some (a != b)
  | [a, "-eq", b] => compare (· == ·) a b
  | [a, "-ne", b] => compare (· != ·) a b
  | [a, "-lt", b] => compare (decide <| · < ·) a b
  | [a, "-le", b] => compare (decide <| · ≤ ·) a b
  | [a, "-gt", b] => compare (decide <| · > ·) a b
  | [a, "-ge", b] => compare (decide <| · ≥ ·) a b
  | ["!", a, b] => (holds files [a, b]).map not
  | ["!", a, b, c] => (holds files [a, b, c]).map not
  | _ => none

/-- Ends with the outcome of a test. -/
def test (args : List String) (s : Shell) : Shell :=
  match holds s.files args with
  | some true => s.finish 0
  | some false => s.finish 1
  | none => (s.complain "test: syntax error\n").finish 2

/-- The words for a file error, without its number. -/
def plainMessage (e : FileError) : String :=
  match e with
  | .notFound => "No such file or directory"
  | .isDirectory => "Is a directory"
  | .notDirectory => "Not a directory"
  | .permissionDenied => "Permission denied"
  | .nameTooLong => "File name too long"
  | .notUtf8 | .nulByte => e.message

/-- Prints files one after another, or the input if there are none. -/
def cat (args : List String) (s : Shell) : Shell :=
  if args.isEmpty then { s with output := s.output ++ s.input }.finish 0
  else
    args.foldl
      (fun s arg =>
        if arg == "-" then { s with output := s.output ++ s.input }
        else if arg == "/dev/null" then s
        else
          match s.files.readBytes arg with
          | .ok bytes => { s with output := s.output ++ bytes }
          | .error e =>
            (s.complain ("cat: " ++ arg ++ ": " ++ plainMessage e ++ "\n")).finish 1)
      (s.finish 0)

/-- Makes files that are not there. -/
def touch (args : List String) (s : Shell) : Shell :=
  args.foldl
    (fun s arg =>
      match s.files.append arg .empty with
      | .ok files => { s with files }
      | .error .isDirectory => s
      | .error e =>
        (s.complain ("touch: cannot touch '" ++ arg ++ "': " ++ plainMessage e ++ "\n")).finish 1)
    (s.finish 0)

/-- Makes directories. -/
def mkdir (args : List String) (s : Shell) : Shell :=
  (args.filter (· != "-p")).foldl
    (fun s arg =>
      match s.files.makeDirectories arg with
      | .ok files => { s with files }
      | .error e =>
        (s.complain ("mkdir: cannot create directory '" ++ arg ++ "': " ++ plainMessage e
          ++ "\n")).finish 1)
    (s.finish 0)

/-- Prints the environment, or the value of one name. -/
def printenv (args : List String) (s : Shell) : Shell :=
  match args with
  | [] => (s.env.foldl (fun s (n, v) => s.print (n ++ "=" ++ v ++ "\n")) s).finish 0
  | name :: _ =>
    match s.env.get? name with
    | some value => (s.print (value ++ "\n")).finish 0
    | none => s.finish 1

/-- A complaint of the shell about how `kill` is used. -/
def misuseKill (s : Shell) (text : String) : Shell :=
  (s.complain ("sh: 1: kill: " ++ text ++ "\n")).finish 2

/-- Sends a signal to the shell itself, if it is sent to anybody; receivers go by number. -/
def sendSelf (s : Shell) (signal : Nat) (receivers : List String) : Shell :=
  match receivers.find? fun r => (Text.readDigits? 10 r.toList).isNone with
  | some receiver => s.misuseKill ("Illegal number: " ++ receiver)
  | none =>
    if receivers.isEmpty then
      s.misuseKill ("Usage: kill [-s sigspec | -signum | -sigspec] [pid | job]... or\n"
        ++ "kill -l [exitstatus]")
    else if Signal.isPassedOver signal then s.finish 0
    else { s with ended := some (.signal signal (Signal.name? signal)) }

/-- Sends a signal that is named after the option `-s`. -/
def sendNamed (s : Shell) (name : String) (receivers : List String) : Shell :=
  match Signal.number? name with
  | some n => s.sendSelf n receivers
  | none => s.misuseKill ("invalid signal number or name: " ++ name)

/-- Sends a signal that is named after a dash or after the option `-s`, or else one that asks to
end; the option `-l` lists all signals. -/
def kill (args : List String) (s : Shell) : Shell :=
  match args with
  | [] => s.sendSelf Signal.term []
  | first :: rest =>
    match first.toList with
    | '-' :: word =>
      match Signal.number? (String.ofList word), word, rest with
      | some n, _, _ => s.sendSelf n rest
      | none, [], _ => s.misuseKill "Illegal number: "
      | none, ['-'], _ => s.sendSelf Signal.term rest
      | none, ['l'], _ => (s.print (String.join (Signal.words.map (· ++ "\n")))).finish 0
      | none, ['s'], [] => s.misuseKill "No arg for -s option"
      | none, ['s'], name :: rest => s.sendNamed name rest
      | none, 's' :: name, _ => s.sendNamed (String.ofList name) rest
      | none, c :: _, _ => s.misuseKill ("Illegal option -" ++ String.ofList [c])
    | _ => s.sendSelf Signal.term args

/-- What a program of a name does, if there is one; some are the shell's own. -/
def tool? (own : Bool) (name : String) : Option (List String → Shell → Shell) :=
  match name with
  | "echo" => some (echo own)
  | "printf" => some printf
  | "true" => some fun _ s => s.finish 0
  | "false" => some fun _ s => s.finish 1
  | "test" => some test
  | "[" => some fun args s =>
    if args.getLast? == some "]" then test args.dropLast s
    else (s.complain "sh: 1: [: missing ]\n").finish 2
  | "cat" => some cat
  | "touch" => some touch
  | "mkdir" => some mkdir
  | "sleep" => some fun _ s => s.finish 0
  | "env" | "printenv" => some printenv
  | "pwd" => some fun _ s => (s.print ("/" ++ "/".intercalate s.files.cwd ++ "\n")).finish 0
  | _ => none

end Shell
end PageScript
