import PageScript.Event.Attributes
import PageScript.Event.Schema

/-!
# Nodes and events

A node is what a document holds: a tag, attributes as they are written, perhaps a text, and nodes
below it. An event is a node that has passed its schema: a kind, typed selectors and actions,
positional arguments, and events below it. Events never change once they are built.
-/

namespace PageScript

/-- One node of a script document, not yet checked. -/
structure Node where
  tag : String
  attributes : List (String × String) := []
  text : Option String := none
  children : List Node := []

/-- One instruction of a test script. -/
structure Event where
  kind : Kind
  /-- The tag as written, in lower case. -/
  name : String
  selectors : Attributes := {}
  actions : Attributes := {}
  args : List String := []
  text : Option String := none
  children : List Event := []

namespace Event

/-- Whether a missing or hidden target is an error; it is unless the script says otherwise. -/
def required (e : Event) : Bool :=
  (e.actions.flag? "required").getD true

mutual

/-- The number of events in a tree. -/
def count : Event → Nat
  | ⟨_, _, _, _, _, _, children⟩ => 1 + countAll children

/-- The number of events in a forest. -/
def countAll : List Event → Nat
  | [] => 0
  | e :: es => e.count + countAll es

end

end Event

mutual

/-- The number of nodes in a tree. -/
def Node.count : Node → Nat
  | ⟨_, _, _, children⟩ => 1 + Node.countAll children

/-- The number of nodes in a forest. -/
def Node.countAll : List Node → Nat
  | [] => 0
  | n :: ns => n.count + Node.countAll ns

end

end PageScript
