import PageScript.Event.Kind

/-!
# Schemas

Which attributes a kind accepts, what type their values have, and what becomes of its content.
Selectors say which element is meant; actions say what to do. Every attribute of a kind stands in
exactly one of its two tables.
-/

namespace PageScript

/-- The type of an attribute's value. -/
inductive ValueType where
  | text | flag
  deriving DecidableEq, Repr

/-- What becomes of a node's children and text. -/
inductive Content where
  /-- The children are events; the text is ignored. -/
  | children
  /-- `arg` children are positional arguments, the others events. -/
  | args
  /-- The text becomes the `content` action. -/
  | rawText
  deriving DecidableEq, Repr

/-- Attribute names with the types of their values, in the order they are declared. -/
abbrev AttributeTable := List (String × ValueType)

/-- The attributes a kind accepts and the use of its content. -/
structure Schema where
  selectors : AttributeTable
  actions : AttributeTable
  content : Content
  deriving DecidableEq, Repr

namespace Schema

/-- The type of a selector, if the kind has it. -/
def selectorType? (s : Schema) (name : String) : Option ValueType :=
  s.selectors.lookup name

/-- The type of an action, if the kind has it. -/
def actionType? (s : Schema) (name : String) : Option ValueType :=
  s.actions.lookup name

/-- Selectors of every kind that is located on the page. -/
def elementSelectors : AttributeTable :=
  [("id", .text), ("name", .text), ("class", .text), ("css", .text), ("xpath", .text),
    ("index", .text), ("text", .text), ("value", .text), ("title", .text)]

/-- Actions of every kind that is located on the page. -/
def elementActions : AttributeTable :=
  [("exists", .flag), ("store", .text), ("assert", .text), ("assertnot", .text), ("var", .text),
    ("jscriptevent", .text), ("click", .flag), ("alert", .flag), ("required", .flag)]

/-- Actions that only some controls have. -/
def controlActions : Control → AttributeTable
  | .checkbox | .radio => [("disabled", .flag), ("set", .flag)]
  | .email | .hidden | .input | .password | .textarea | .textfield =>
    [("disabled", .flag), ("clear", .flag), ("set", .text), ("append", .text)]
  | .select => [("disabled", .flag), ("set", .text), ("setreal", .text)]
  | .filefield => [("disabled", .flag), ("set", .text)]
  | .button => [("disabled", .flag)]

/-- Selectors that only some markup kinds have. -/
def markupSelectors : Markup → AttributeTable
  | .link => [("href", .text)]
  | .image => [("src", .text), ("alt", .text)]
  | _ => []

/-- Selectors of a command: only `attach` has any. -/
def commandSelectors : Command → AttributeTable
  | .attach => [("title", .text), ("url", .text), ("index", .text)]
  | _ => []

def commandActions : Command → AttributeTable
  | .alert => [("alert", .flag), ("exists", .flag), ("assert", .text)]
  | .browser =>
    [("action", .text), ("url", .text), ("assert", .text), ("assertnot", .text),
      ("assertpage", .flag)]
  | .csv => [("file", .text), ("var", .text), ("override", .text)]
  | .delete => [("name", .text)]
  | .dnd => [("src", .text), ("dst", .text)]
  | .javaplugin | .pluginloader => [("classname", .text)]
  | .javascript => [("file", .text), ("content", .text)]
  | .puts => [("txt", .text)]
  | .savehtml | .screenshot | .script => [("file", .text)]
  | .var => [("var", .text), ("set", .text), ("unset", .flag)]
  | .wait => [("timeout", .text)]
  | .whitelist => [("name", .text), ("action", .text), ("content", .text)]
  | .arg | .attach | .execute | .timestamp => []

def frameSelectors : AttributeTable :=
  [("index", .text), ("id", .text), ("name", .text), ("xpath", .text), ("css", .text)]

end Schema

/-- The use a kind makes of its content. -/
def Kind.content (k : Kind) : Content :=
  if k.can .args then .args else if k.can .rawText then .rawText else .children

def Kind.schema (k : Kind) : Schema :=
  match k with
  | .command c => ⟨Schema.commandSelectors c, Schema.commandActions c, k.content⟩
  | .frame => ⟨Schema.frameSelectors, [("required", .flag)], k.content⟩
  | .markup m => ⟨Schema.elementSelectors ++ Schema.markupSelectors m, Schema.elementActions,
      k.content⟩
  | .control c => ⟨Schema.elementSelectors, Schema.elementActions ++ Schema.controlActions c,
      k.content⟩

/-- Every kind, sorted by tag. -/
def Kind.sorted : List Kind :=
  Kind.all.mergeSort fun a b => decide (a.tag ≤ b.tag)

def ValueType.word : ValueType → String
  | .text => "string"
  | .flag => "boolean"

end PageScript
