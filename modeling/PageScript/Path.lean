import PageScript.Text.Search

/-!
# Paths

Paths are texts whose parts are divided by slashes. Nothing here looks at any file: a path is joined
to a directory, and cut from its last part, by its text alone.
-/

namespace PageScript.Path

/-- Whether a path starts at the root. -/
def isAbsolute (path : String) : Bool :=
  path.toList.head? == some '/'

/-- A path below a directory; an absolute path stands for itself. -/
def join (dir path : String) : String :=
  if isAbsolute path then path
  else
    match dir.toList.getLast? with
    | none | some '/' => dir ++ path
    | some _ => dir ++ "/" ++ path

/-- A path as it is meant in a script: below the base directory, if there is one. -/
def resolve (base : Option String) (path : String) : String :=
  match base with
  | some dir => join dir path
  | none => path

/-- Whether a part of a path leads nowhere. -/
def isEmptyPart (part : List Char) : Bool :=
  part == [] || part == ['.']

/-- The start of a path that its parts follow: the root, or a dot that stands for the present
directory. -/
def start (path : List Char) : List Char :=
  match path with
  | '/' :: _ => ['/']
  | ['.'] => ['.']
  | '.' :: '/' :: _ => ['.']
  | _ => []

/-- Drops parts that lead nowhere from the end. -/
def dropEmptyParts (parts : List (List Char)) : List (List Char) :=
  (parts.reverse.dropWhile isEmptyPart).reverse

/-- A path without its last part, if it has one. -/
def parent? (path : String) : Option String :=
  let s := path.toList
  let first := start s
  match dropEmptyParts (Text.cutAt '/' (s.drop first.length)) with
  | [] => if first == ['.'] then some "" else none
  | parts => some (String.ofList
      (first ++ ['/'].intercalate (dropEmptyParts parts.dropLast)))

end PageScript.Path
