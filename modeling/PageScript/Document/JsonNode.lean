import PageScript.Document.Json
import PageScript.Document.JsonNumber
import PageScript.Document.NodeDraft

/-!
# Nodes in JSON documents

A node is written as a record with the names `tag`, `attributes`, `text` and `children`, of which
only the tag has to be there, or as a list of the four in this order, cut short at will after the
tag. Attributes are a record whose entries keep their order and may repeat names; a value that is a
flag or a number stands for its text. Other names in a node are passed over; one of the four must
not stand there twice. Lists and records are nested to a limited depth.
-/

namespace PageScript.JsonValue

/-- How deeply lists and records may be nested, and one more. -/
def nestingEnd : Nat := 128

/-- The text of an attribute's value. -/
def attributeText? : JsonValue → Option String
  | .text s => s
  | .flag b => some (Value.flag b).written
  | .number literal => numberText? literal
  | _ => none

def attributeOf? (entry : Option String × JsonValue) : Option (String × String) := do
  return (← entry.1, ← attributeText? entry.2)

/-- The attributes of a record, in order. -/
def attributesOf? (room : Nat) : JsonValue → Option (List (String × String))
  | .record entries => if room ≤ 1 then none else entries.mapM attributeOf?
  | _ => none

/-- A text that may be missing. -/
def textOf? : JsonValue → Option (Option String)
  | .null => some none
  | .text (some s) => some (some s)
  | _ => none

mutual

/-- Reads a node. -/
def nodeOf? (room : Nat) : JsonValue → Option Node
  | .record entries =>
    if room ≤ 1 then none else (entriesOf? (room - 1) {} entries).bind NodeDraft.node?
  | .list items => if room ≤ 1 then none else (partsOf? (room - 1) items).bind NodeDraft.node?
  | _ => none

/-- Reads nodes. -/
def nodesOf? (room : Nat) : List JsonValue → Option (List Node)
  | [] => some []
  | j :: r => do return (← nodeOf? room j) :: (← nodesOf? room r)

/-- Reads the children of a node. -/
def childrenOf? (room : Nat) : JsonValue → Option (List Node)
  | .list items => if room ≤ 1 then none else nodesOf? (room - 1) items
  | _ => none

/-- Reads the parts of a node written as a list. -/
def partsOf? (room : Nat) : List JsonValue → Option NodeDraft
  | [.text tag] => some { tag }
  | [.text tag, a] => do return { tag, attributes := ← attributesOf? room a }
  | [.text tag, a, t] => do
    return { tag, attributes := ← attributesOf? room a, text := ← textOf? t }
  | [.text tag, a, t, c] => do
    return {
      tag
      attributes := ← attributesOf? room a
      text := ← textOf? t
      children := ← childrenOf? room c }
  | _ => none

/-- Reads the parts of a node written as a record. -/
def entriesOf? (room : Nat) (d : NodeDraft) : List (Option String × JsonValue) → Option NodeDraft
  | [] => some d
  | (none, _) :: _ => none
  | (some "tag", value) :: r =>
    match d.tag, value with
    | none, .text (some tag) => entriesOf? room { d with tag := some tag } r
    | _, _ => none
  | (some "attributes", value) :: r =>
    match d.attributes, attributesOf? room value with
    | none, some attributes => entriesOf? room { d with attributes := some attributes } r
    | _, _ => none
  | (some "text", value) :: r =>
    match d.text, textOf? value with
    | none, some content => entriesOf? room { d with text := some content } r
    | _, _ => none
  | (some "children", value) :: r =>
    match d.children, childrenOf? room value with
    | none, some children => entriesOf? room { d with children := some children } r
    | _, _ => none
  | (some _, _) :: r => entriesOf? room d r

end

/-- Reads the nodes of a script from a text, of which a reader makes a document. -/
def nodesBy? (read : String → Option JsonValue) (s : String) : Option (List Node) := do
  childrenOf? nestingEnd (← read s)

/-- Reads the nodes of a script from a JSON text. -/
def nodesOfText? : String → Option (List Node) := nodesBy? ofText?

end PageScript.JsonValue
