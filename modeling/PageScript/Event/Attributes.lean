import PageScript.Bindings

/-!
# Attributes

An insertion-ordered map from names to typed values. A name keeps the place of its first insertion
and has the value of its last one.
-/

namespace PageScript

/-- The value of an attribute. -/
inductive Value where
  | text (s : String)
  | flag (b : Bool)
  deriving DecidableEq, Repr

namespace Value

def text? : Value → Option String
  | .text s => some s
  | .flag _ => none

/-- The truth of a value that is a flag. -/
def flag? : Value → Option Bool
  | .flag b => some b
  | .text _ => none

def written : Value → String
  | .text s => s
  | .flag true => "true"
  | .flag false => "false"

end Value

/-- Named values in the order of first insertion. -/
structure Attributes where
  entries : Bindings Value := []
  deriving DecidableEq, Repr

namespace Attributes

/-- Inserts a value, or replaces it where the name already stands. -/
def insert (a : Attributes) (name : String) (value : Value) : Attributes :=
  ⟨a.entries.put name value⟩

def get? (a : Attributes) (name : String) : Option Value :=
  a.entries.get? name

/-- The value of a name, if it is a text. -/
def text? (a : Attributes) (name : String) : Option String :=
  (a.get? name).bind Value.text?

/-- The value of a name, if it is a flag. -/
def flag? (a : Attributes) (name : String) : Option Bool :=
  (a.get? name).bind Value.flag?

/-- Whether a name has a value. -/
def contains (a : Attributes) (name : String) : Bool :=
  (a.get? name).isSome

/-- The number of names. -/
def size (a : Attributes) : Nat :=
  a.entries.length

/-- Whether there is no name at all. -/
def isEmpty (a : Attributes) : Bool :=
  a.entries.isEmpty

/-- The names, in order. -/
def names (a : Attributes) : List String :=
  a.entries.names

/-- An inserted value is found under its name, and no other name is touched. -/
theorem get?_insert (a : Attributes) (name other : String) (value : Value) :
    (a.insert name value).get? other = if other = name then some value else a.get? other :=
  Bindings.get?_put a.entries name other value

theorem nodup_names_insert {a : Attributes} (h : a.names.Nodup) (name : String) (value : Value) :
    (a.insert name value).names.Nodup :=
  Bindings.nodup_names_put h name value

end Attributes
end PageScript
