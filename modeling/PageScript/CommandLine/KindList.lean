import PageScript.Bindings
import PageScript.Document.JsonText
import PageScript.Error
import PageScript.Event.Schema

/-!
# Lists of kinds

The kinds of events and the attributes they accept, as lines of text or as a JSON document.
-/

namespace PageScript.KindList

/-- The kinds of a list: the one of a tag, or all of them by tag. -/
def kinds (tag : Option String) : Except Error (List Kind) :=
  match tag with
  | none => .ok Kind.sorted
  | some tag =>
    match Kind.ofTag? tag with
    | some k => .ok [k]
    | none => .error (.unknownKind tag)

/-! ## Lines of text -/

/-- A text with blanks after it, so that it has some width at least. -/
def padded (width : Nat) (s : String) : String :=
  s ++ String.ofList (List.replicate (width - s.length) ' ')

/-- What a kind stands for on a page. -/
def target (k : Kind) : String :=
  match k.htmlTarget with
  | none => ""
  | some t =>
    match t.inputType with
    | some input => "<" ++ t.tag ++ " type=" ++ input ++ ">"
    | none => "<" ++ t.tag ++ ">"

/-- Attributes with their types, or a dash if there are none. -/
def attributes (t : AttributeTable) : String :=
  if t.isEmpty then "-"
  else ", ".intercalate (t.map fun (name, type) => name ++ ":" ++ type.word)

/-- The lines of a kind; with details they tell its attributes. -/
def lines (details : Bool) (k : Kind) : List String :=
  let schema := k.schema
  ["  " ++ padded 12 k.tag ++ " " ++ padded 8 k.category.word ++ " " ++ target k]
    ++ (if details then
          ["    selectors: " ++ attributes schema.selectors,
            "    actions:   " ++ attributes schema.actions]
        else [])

/-! ## Documents -/

/-- A text in a document. -/
def text (s : String) : JsonValue := .text (some s)

/-- A text that may be missing in a document. -/
def optional (s : Option String) : JsonValue := (s.map text).getD .null

/-- A record by name. -/
def record (entries : Bindings JsonValue) : JsonValue :=
  .record ((Bindings.sorted entries).map fun (name, j) => (some name, j))

/-- Attributes with their types in a document. -/
def table (t : AttributeTable) : JsonValue :=
  record (t.map fun (name, type) => (name, text type.word))

/-- The word for the use of a node's content. -/
def contentWord : Content → String
  | .children => "children"
  | .args => "args"
  | .rawText => "rawtext"

def document (k : Kind) : JsonValue :=
  let schema := k.schema
  record [("tag", text k.tag), ("category", text k.category.word),
    ("html_tag", optional (k.htmlTarget.map (·.tag))),
    ("html_type", optional (k.htmlTarget.bind (·.inputType))),
    ("selectors", table schema.selectors), ("actions", table schema.actions),
    ("content", text (contentWord schema.content))]

def printed (tag : Option String) (json : Bool) : Except Error (List String) :=
  (kinds tag).map fun ks =>
    if json then [(JsonValue.list (ks.map document)).pretty ""]
    else ks.flatMap (lines tag.isSome)

end PageScript.KindList
