import PageScript.Event.Build

/-!
# Test scripts

A script names a test, may describe it, and holds the nodes of its events.
-/

namespace PageScript

/-- A test script as it is written. -/
structure Script where
  name : String
  description : Option String := none
  nodes : List Node := []

end PageScript
