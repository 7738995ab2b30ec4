import PageScript.Text.Numeral
import PageScript.Text.Search

/-!
# Signals

The signals that a program can be sent, by number, name and word. Most of them end it; a few are
passed over by a program that does not mind them. The signals from 34 on have no meaning of their
own, and are counted from the first or back from the last of them, whichever is nearer.
-/

namespace PageScript.Signal

/-- The names of the signals that have a meaning of their own, from the first on. -/
def names : List String := [
  "HUP", "INT", "QUIT", "ILL", "TRAP", "ABRT", "BUS", "FPE", "KILL", "USR1", "SEGV", "USR2", "PIPE",
  "ALRM", "TERM", "STKFLT", "CHLD", "CONT", "STOP", "TSTP", "TTIN", "TTOU", "URG", "XCPU", "XFSZ",
  "VTALRM", "PROF", "WINCH", "IO", "PWR", "SYS"]

/-- The full name of a signal that has a meaning of its own. -/
def name? (n : Nat) : Option String :=
  if n = 0 then none else (names[n - 1]?).map ("SIG" ++ ·)

/-- The first signal without a meaning of its own that is free for all programs. -/
def firstFree : Nat := 34

def last : Nat := 64

/-- The signal that asks a program to end. -/
def term : Nat := 15

/-- The word that a shell knows for a signal; one without a word goes by its number. -/
def word (n : Nat) : String :=
  if n = firstFree then "RTMIN"
  else if n = last then "RTMAX"
  else if firstFree < n && 2 * n < firstFree + last + 1 then "RTMIN+" ++ toString (n - firstFree)
  else if firstFree < n && n < last then "RTMAX-" ++ toString (last - n)
  else
    match names[n - 1]? with
    | some name => if n = 0 || name == "STKFLT" then toString n else name
    | none => toString n

def words : List String := (List.range last).map fun n => word (n + 1)

/-- The number of a signal, from its digits or its word in any case. -/
def number? (s : String) : Option Nat :=
  match Text.readDigits? 10 s.toList with
  | some n => if n ≤ last then some n else none
  | none => (words.findIdx? (Text.sameIgnoringCase s)).map (· + 1)

/-- Whether a program that does not mind a signal goes on; zero is no signal at all. -/
def isPassedOver (n : Nat) : Bool :=
  n = 0 || (name? n).any ["SIGCHLD", "SIGCONT", "SIGURG", "SIGWINCH"].contains

end PageScript.Signal
