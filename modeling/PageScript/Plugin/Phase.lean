import PageScript.Text.Search

/-!
# Phases

The fixed points of a test at which plugins run, and the matchers that say which plugin runs when.
The phases around a whole test match whatever the tags; the others match a tag that is listed,
ignoring the case of ASCII letters, or any event if no tag is listed.
-/

namespace PageScript

/-- A point of a test at which plugins run. -/
inductive Phase where
  | beforeTest | afterTest | beforeClick | afterClick | afterEvent
  deriving DecidableEq, Repr

namespace Phase

/-- Whether a phase comes once in a test and belongs to no event. -/
def isTestScoped : Phase → Bool
  | .beforeTest | .afterTest => true
  | _ => false

def word : Phase → String
  | .beforeTest => "beforetest"
  | .afterTest => "aftertest"
  | .beforeClick => "beforeclick"
  | .afterClick => "afterclick"
  | .afterEvent => "afterevent"

/-- The phases in order. -/
def all : List Phase :=
  [.beforeTest, .afterTest, .beforeClick, .afterClick, .afterEvent]

def ofWord? (s : String) : Option Phase :=
  all.find? (·.word == s)

end Phase

/-- Says when a plugin runs: at a phase, for the listed tags or for every tag if none is listed. -/
structure Matcher where
  phase : Phase
  elements : List String := []
  deriving DecidableEq, Repr

/-- Whether a plugin runs at a phase of an event with the given tag. -/
def Matcher.accepts (m : Matcher) (phase : Phase) (tag : Option String) : Bool :=
  m.phase == phase &&
    (phase.isTestScoped || m.elements.isEmpty ||
      match tag with
      | some tag => m.elements.any (Text.sameIgnoringCase · tag)
      | none => false)

end PageScript
