import PageScript.Event.Basic

/-!
# Drafts of nodes

While a document is read, the parts of a node come in any order, each at most once. Only the tag has
to be there; a part that is missing stands for nothing.
-/

namespace PageScript

/-- A node whose parts may still be missing. -/
structure NodeDraft where
  tag : Option String := none
  attributes : Option (List (String × String)) := none
  text : Option (Option String) := none
  children : Option (List Node) := none

/-- The node of a draft that has a tag. -/
def NodeDraft.node? (d : NodeDraft) : Option Node := do
  return {
    tag := ← d.tag
    attributes := d.attributes.getD []
    text := d.text.getD none
    children := d.children.getD [] }

end PageScript
