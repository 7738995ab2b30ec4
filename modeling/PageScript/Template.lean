import PageScript.Text.Search
import PageScript.Vars.Basic

/-!
# Templates

A text with tokens of the form `\{@name\}` in it. A token whose name is not empty and is bound, in
the overrides or else among the variables, stands for its value; any other token and all text
between tokens stand for themselves. At the end each backslash followed by the letter `n` becomes a
line feed. Values are not searched for tokens again.
-/

namespace PageScript

/-- Values that override variables of the same name. -/
abbrev Hijacks := Bindings String

/-- A text cut into literals and the names of tokens, which alternate: each token with the literal
before it, and the last literal. -/
structure Template where
  tokens : List (List Char × List Char) := []
  last : List Char := []
  deriving DecidableEq, Repr

namespace Template

/-- What opens a token. -/
def opening : List Char := ['\x7b', '@']

/-- What closes a token. -/
def closing : Char := '\x7d'

/-- Puts one character before everything else. -/
def prepend (c : Char) (t : Template) : Template :=
  match t.tokens with
  | [] => { t with last := c :: t.last }
  | (before, name) :: r => { t with tokens := (c :: before, name) :: r }

/-- Puts a token before everything else. -/
def withToken (name : List Char) (t : Template) : Template :=
  { t with tokens := ([], name) :: t.tokens }

/-- Cuts a text into literals and tokens, from left to right. A token ends at the first closing
brace; an opening that is never closed belongs to the last literal. -/
def parse : List Char → Template
  | [] => {}
  | '\x7b' :: '@' :: rest =>
    match _h : Text.cutOnce closing rest with
    -- without a closing brace in the rest no later opening is closed either
    | none => { last := opening ++ rest }
    | some (name, after) => (parse after).withToken name
  | c :: r => (parse r).prepend c
termination_by s => s.length
decreasing_by
  · have := Text.length_cutOnce _h
    simp only [List.length_cons]
    omega
  · simp

def tokenText (name : List Char) : List Char :=
  opening ++ name ++ [closing]

/-- The text a template was cut from. -/
def toText (t : Template) : List Char :=
  t.tokens.flatMap (fun (before, name) => before ++ tokenText name) ++ t.last

theorem toText_withToken (name : List Char) (t : Template) :
    (t.withToken name).toText = tokenText name ++ t.toText := by
  simp [withToken, toText]

theorem toText_prepend (c : Char) (t : Template) : (t.prepend c).toText = c :: t.toText := by
  unfold prepend
  split
  · next h => simp [toText, h]
  · next h => simp [toText, h]

/-- Nothing is lost in cutting a text into literals and tokens. -/
theorem toText_parse (s : List Char) : (parse s).toText = s := by
  fun_induction parse s with
  | case1 => rfl
  | case2 => rfl
  | case3 rest name after h ih =>
    rw [toText_withToken, ih, Text.cutOnce_eq_some h]
    simp [tokenText, opening]
  | case4 c r _ ih => rw [toText_prepend, ih]

/-- The value of a token, if its name is bound and not empty. -/
def resolve? (hijacks : Hijacks) (vars : Vars) (name : List Char) : Option String :=
  if name.isEmpty then none
  else (hijacks.get? (String.ofList name)).or (vars.get? (String.ofList name))

/-- What a token stands for. -/
def tokenValue (hijacks : Hijacks) (vars : Vars) (name : List Char) : List Char :=
  match resolve? hijacks vars name with
  | some value => value.toList
  | none => tokenText name

/-- The text a template stands for, before line feeds are put in. -/
def expand (hijacks : Hijacks) (vars : Vars) (t : Template) : List Char :=
  t.tokens.flatMap (fun (before, name) => before ++ tokenValue hijacks vars name) ++ t.last

end Template

/-- Replaces each backslash followed by `n`, from left to right, by a line feed. -/
def putLineFeeds : List Char → List Char
  | '\\' :: 'n' :: r => '\n' :: putLineFeeds r
  | c :: r => c :: putLineFeeds r
  | [] => []

/-- The text that a raw text stands for. -/
def substitute (hijacks : Hijacks) (vars : Vars) (raw : String) : String :=
  String.ofList (putLineFeeds ((Template.parse raw.toList).expand hijacks vars))

end PageScript
