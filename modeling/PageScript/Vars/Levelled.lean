import PageScript.Vars.Basic

/-!
# Variables by level

A second account of variables, with no scopes: one map from names to a value and the level at which
the name was made, and the level reached so far, which starts at one. Assigning keeps the level of
a bound name; leaving a level forgets the names made at it.
-/

namespace PageScript

/-- A value and the level at which its name was made. -/
structure Levelled where
  value : String
  level : Nat
  deriving DecidableEq, Repr

/-- One map of variables with levels. -/
structure LevelMap where
  bindings : Bindings Levelled := []
  level : Nat := 1
  flat : Bool := false

namespace LevelMap

/-- The value of a name. -/
def get? (m : LevelMap) (name : String) : Option String :=
  (m.bindings.get? name).map (·.value)

/-- Assigns a value: a bound name keeps its level, a new one gets the level reached. -/
def put (m : LevelMap) (name value : String) : LevelMap :=
  let level := ((m.bindings.get? name).map (·.level)).getD m.level
  { m with bindings := m.bindings.put name ⟨value, level⟩ }

/-- Forgets a name. -/
def erase (m : LevelMap) (name : String) : LevelMap :=
  { m with bindings := m.bindings.erase name }

/-- Goes up one level, unless flat. -/
def push (m : LevelMap) : LevelMap :=
  if m.flat then m else { m with level := m.level + 1 }

/-- Goes down one level and forgets the names made at the level left, unless flat. -/
def pop (m : LevelMap) : Except Error LevelMap :=
  if m.flat then .ok m
  else if m.level ≤ 1 then .error .scopeUnderflow
  else
    .ok { m with
      bindings := m.bindings.filter fun p => p.2.level ≠ m.level
      level := m.level - 1 }

/-- Makes the map flat, or not flat again. -/
def setFlat (m : LevelMap) (flat : Bool) : LevelMap :=
  { m with flat }

/-- The bound names. -/
def names (m : LevelMap) : List String :=
  m.bindings.names

end LevelMap
end PageScript
