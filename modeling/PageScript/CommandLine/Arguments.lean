import PageScript.CommandLine.Subcommand

/-!
# Arguments

How a command is written on the command line: its word, options, and what it is about. An option
has a word after two dashes and perhaps a letter after one; letters may be written together. The
value of an option follows as an argument of its own, after an equals sign, or right after its
letter. After two dashes alone there are no more options. Arguments are taken one after another, so
of a fault and the wish for help the one that comes first counts.
-/

namespace PageScript

/-- What is asked for on the command line. -/
inductive Asked where
  | command (c : Subcommand)
  | version
  | help
  /-- The arguments make no command. -/
  | misuse
  deriving DecidableEq, Repr

/-- The options of commands. -/
inductive OptionName where
  | config | hijack | verbose | logFile | json
  deriving DecidableEq, Repr

namespace OptionName

def word : OptionName → String
  | .config => "config"
  | .hijack => "hijack"
  | .verbose => "verbose"
  | .logFile => "log-file"
  | .json => "json"

def letter : OptionName → Option Char
  | .config => some 'c'
  | .hijack => some 'H'
  | .verbose => some 'v'
  | .logFile | .json => none

def hasValue : OptionName → Bool
  | .config | .hijack => true
  | _ => false

/-- Whether an option may be given more than once. -/
def repeats : OptionName → Bool
  | .hijack => true
  | _ => false

/-- Whether the value of an option may be empty. -/
def mayBeEmpty : OptionName → Bool
  | .hijack => true
  | _ => false

end OptionName

namespace Arguments

/-- The arguments of a command, sorted out. -/
structure Sorted where
  options : List (OptionName × String) := []
  others : List String := []
  deriving Repr

/-- Why sorting out arguments ends early. -/
inductive Stop where
  | help
  | misuse
  deriving DecidableEq, Repr

/-- Adds an option, unless it is one too many. -/
def Sorted.add (s : Sorted) (name : OptionName) (value : String) : Except Stop Sorted :=
  if (!name.repeats && s.options.any (·.1 == name))
      || (name.hasValue && !name.mayBeEmpty && value.isEmpty) then .error .misuse
  else .ok { s with options := s.options ++ [(name, value)] }

def looksLikeOption (arg : List Char) : Bool :=
  1 < arg.length && arg.head? == some '-'

/-- What a command takes: its options, and how many other arguments at most, which may be empty or
not. -/
structure Form where
  options : List OptionName := []
  most : Option Nat := none
  mayBeEmpty : Bool := false

/-- Adds an argument that belongs to no option, unless it is one too many or must not be empty. -/
def Form.take (f : Form) (arg : String) (s : Sorted) : Except Stop Sorted :=
  if f.most.any (· ≤ s.others.length) || (arg.isEmpty && !f.mayBeEmpty) then .error .misuse
  else .ok { s with others := s.others ++ [arg] }

/-- What is still to be done after the letters or the word of options. -/
inductive Rest where
  | done (s : Sorted)
  /-- The next argument is a value. -/
  | awaiting (name : OptionName) (s : Sorted)

def takeLetters (known : List OptionName) : List Char → Sorted → Except Stop Rest
  | [], s => .ok (.done s)
  | c :: r, s =>
    match known.find? (·.letter == some c) with
    | none => .error (if c == 'h' then .help else .misuse)
    | some name =>
      if !name.hasValue then (s.add name "").bind (takeLetters known r)
      else
        match r with
        | [] => .ok (.awaiting name s)
        | '=' :: value => (s.add name (String.ofList value)).map .done
        | value => (s.add name (String.ofList value)).map .done

def takeWord (known : List OptionName) (arg : List Char) (s : Sorted) : Except Stop Rest :=
  let (word, value) : List Char × Option (List Char) :=
    match Text.cutOnce '=' arg with
    | some (word, value) => (word, some value)
    | none => (arg, none)
  match known.find? (·.word == String.ofList word), value with
  | some name, some value =>
    if name.hasValue then (s.add name (String.ofList value)).map .done else .error .misuse
  | some name, none =>
    if name.hasValue then .ok (.awaiting name s) else (s.add name "").map .done
  | none, none => .error (if word == "help".toList then .help else .misuse)
  | none, some _ => .error .misuse

/-- Sorts arguments out; `pending` is an option that still lacks its value. -/
def sortOut (f : Form) :
    (pending : Option OptionName) → List String → Sorted → Except Stop Sorted
  | none, [], s => .ok s
  | some _, [], _ => .error .misuse
  | some name, arg :: args, s =>
    if looksLikeOption arg.toList then .error .misuse
    else (s.add name arg).bind (sortOut f none args)
  | none, arg :: args, s =>
    match arg.toList with
    -- whatever follows is no option
    | ['-', '-'] => args.foldlM (fun s arg => f.take arg s) s
    | '-' :: '-' :: word =>
      match takeWord f.options word s with
      | .error e => .error e
      | .ok (.done s) => sortOut f none args s
      | .ok (.awaiting name s) => sortOut f (some name) args s
    | '-' :: c :: letters =>
      match takeLetters f.options (c :: letters) s with
      | .error e => .error e
      | .ok (.done s) => sortOut f none args s
      | .ok (.awaiting name s) => sortOut f (some name) args s
    | _ => (f.take arg s).bind (sortOut f none args)

namespace Sorted

/-- Whether an option was given. -/
def has (s : Sorted) (name : OptionName) : Bool :=
  s.options.any (·.1 == name)

/-- The values of an option, in order. -/
def values (s : Sorted) (name : OptionName) : List String :=
  (s.options.filter (·.1 == name)).map (·.2)

/-- The paths of scripts, of which there has to be one. -/
def scripts? (s : Sorted) : Option (List String) :=
  if s.others.isEmpty then none else some s.others

end Sorted

/-- What the command to run scripts takes. -/
def runForm : Form := { options := [.config, .hijack, .verbose, .logFile] }

/-- The command to run scripts. -/
def runCommand? (s : Sorted) : Option Subcommand := do
  return .run {
    scripts := ← s.scripts?
    config := (s.values .config).head?
    hijacks := s.values .hijack
    verbose := s.has .verbose
    logFile := s.has .logFile }

/-- What the command to check scripts takes. -/
def checkForm : Form := {}

/-- The command to check scripts. -/
def checkCommand? (s : Sorted) : Option Subcommand :=
  s.scripts?.map .check

/-- What the command to list kinds takes. -/
def kindsForm : Form := { options := [.json], most := some 1, mayBeEmpty := true }

/-- The command to list kinds, of which one may be named. -/
def kindsCommand (s : Sorted) : Subcommand :=
  .kinds s.others.head? (s.has .json)

/-- What is asked for with a command of a form. -/
def asked (f : Form) (make : Sorted → Option Subcommand) (args : List String) : Asked :=
  match sortOut f none args {} with
  | .error .help => .help
  | .error .misuse => .misuse
  | .ok s =>
    match make s with
    | some c => .command c
    | none => .misuse

/-- The words of commands. -/
def words : List String := ["run", "check", "kinds", "help"]

end Arguments

def Asked.ofArguments (args : List String) : Asked :=
  match args with
  | [] => .misuse
  | "run" :: args => Arguments.asked Arguments.runForm Arguments.runCommand? args
  | "check" :: args => Arguments.asked Arguments.checkForm Arguments.checkCommand? args
  | "kinds" :: args =>
    Arguments.asked Arguments.kindsForm (fun s => some (Arguments.kindsCommand s)) args
  | ["help"] => .help
  | ["help", word] => if Arguments.words.contains word then .help else .misuse
  | arg :: _ =>
    match arg.toList with
    | '-' :: 'V' :: _ => .version
    | '-' :: 'h' :: _ => .help
    | word =>
      if word == "--version".toList then .version
      else if word == "--help".toList then .help
      else .misuse

end PageScript
