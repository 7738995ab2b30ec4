import PageScript.Document.NodeDraft
import PageScript.Document.Yaml.PlainValue
import PageScript.Document.Yaml.Tree
import PageScript.Script

/-!
# Scripts in YAML documents

A script is a mapping with the names `name`, `description` and `events`, and a node one with `tag`,
`attributes`, `text` and `children`. Other names are passed over; one of these must not stand there
twice. Where a text is wanted, every scalar is taken as it is written, but an attribute has the text
of what the scalar stands for. Sequences and mappings are nested to a limited depth, and aliases are
followed a limited number of times.
-/

namespace PageScript.Yaml

/-- A step of reading a document, with the number of times that aliases may still be followed. -/
abbrev Reading := StateT Nat Option

/-- How deeply sequences and mappings may be nested. -/
def nesting : Nat := 128

/-- How many times aliases are followed for each part of a document. -/
def followsPerPart : Nat := 100

namespace Reading

/-- The node itself, or the one that an alias stands for. -/
def follow (d : Document) : Tree → Reading Tree
  | .alias anchor => do
    match ← get with
    | 0 => failure
    | left + 1 => set left
    match d.target? anchor with
    | some t => return t
    | none => failure
  | t => return t

/-- The text of a scalar as it is written. -/
def text (d : Document) (t : Tree) : Reading String := do
  match ← follow d t with
  | .scalar _ _ _ text => return text
  | _ => failure

/-- The text of a scalar that may stand for nothing. -/
def textOrNothing (d : Document) (t : Tree) : Reading (Option String) := do
  match ← follow d t with
  | .scalar _ _ .quoted text => return some text
  | .scalar _ none .plain text => return if text.isEmpty || isNull text then none else some text
  | .scalar _ (some tag) .plain text =>
    if tag == Tag.standard "null" then
      if isNull text then return none else failure
    else return some text
  | _ => failure

/-- The text of what a scalar stands for. -/
def attributeText (d : Document) (t : Tree) : Reading String := do
  match ← follow d t with
  | .scalar _ none .plain text => plainText? text
  | .scalar _ none .quoted text => return text
  | .scalar _ (some tag) style text => taggedText? tag (style == .plain) text
  | _ => failure

/-- The attributes of a node; a scalar where nothing is written stands for none. -/
def attributes (d : Document) (room : Nat) (t : Tree) : Reading (List (String × String)) := do
  match ← follow d t with
  | .mapping _ entries =>
    if room = 0 then failure
    entries.mapM fun (name, value) => do return (← text d name, ← attributeText d value)
  | .scalar _ _ .plain "" => return []
  | _ => failure

mutual

def node (d : Document) : Nat → Tree → Reading Node
  | 0, _ => failure
  | room + 1, t => do
    match ← follow d t with
    | .mapping _ entries => (← entries.foldlM (entry d room) {}).node?
    | _ => failure

/-- One named part of a node. -/
def entry (d : Document) : Nat → NodeDraft → Tree × Tree → Reading NodeDraft
  | room, draft, (name, value) => do
    match ← text d name with
    | "tag" =>
      if draft.tag.isSome then failure
      return { draft with tag := some (← text d value) }
    | "attributes" =>
      if draft.attributes.isSome then failure
      return { draft with attributes := some (← attributes d room value) }
    | "text" =>
      if draft.text.isSome then failure
      return { draft with text := some (← textOrNothing d value) }
    | "children" =>
      if draft.children.isSome then failure
      return { draft with children := some (← nodes d room value) }
    | _ => return draft

/-- Nodes in a sequence; a scalar where nothing is written stands for none. -/
def nodes (d : Document) : Nat → Tree → Reading (List Node)
  | room, t => do
    match ← follow d t, room with
    | .sequence _ items, room + 1 => items.mapM (node d room)
    | .scalar _ _ .plain "", _ => return []
    | _, _ => failure

end

/-- A script whose parts may still be missing. -/
structure ScriptDraft where
  name : Option String := none
  description : Option (Option String) := none
  nodes : Option (List Node) := none

/-- One named part of a script. -/
def scriptEntry (d : Document) (room : Nat) (draft : ScriptDraft) (e : Tree × Tree) :
    Reading ScriptDraft := do
  match ← text d e.1 with
  | "name" =>
    if draft.name.isSome then failure
    return { draft with name := some (← text d e.2) }
  | "description" =>
    if draft.description.isSome then failure
    return { draft with description := some (← textOrNothing d e.2) }
  | "events" =>
    if draft.nodes.isSome then failure
    return { draft with nodes := some (← nodes d room e.2) }
  | _ => return draft

def script (d : Document) (t : Tree) : Reading Script := do
  match t with
  | .mapping _ entries =>
    let draft ← entries.foldlM (scriptEntry d (nesting - 1)) {}
    return {
      name := ← draft.name
      description := draft.description.getD none
      nodes := draft.nodes.getD [] }
  | _ => failure

end Reading
end PageScript.Yaml

namespace PageScript.Script

/-- The script that a YAML text holds. -/
def ofYaml? (text : String) : Option Script := do
  let d ← Yaml.document? text
  let root ← d.root
  let (script, _) ← (Yaml.Reading.script d root).run (root.weight * Yaml.followsPerPart)
  return script

/-- Reads the script that a YAML text holds. What is wrong with a text is not told. -/
def readYaml (text : String) : Except String Script :=
  match ofYaml? text with
  | some script => .ok script
  | none => .error ""

/-- The script that a YAML text holds, from a file of a certain path. -/
def ofYaml (path text : String) : Except Error Script :=
  (readYaml text).mapError (.scriptSyntax path)

end PageScript.Script
