import PageScript.Bindings

/-!
# TOML documents as trees

A document is a table of named values. Tables come about in several ways, and the way says whether a
table may still be extended: by a header of its own, by headers or dotted keys of what is below it,
or all at once within braces. A name is never given twice in one table.
-/

namespace PageScript

namespace Toml

/-- How a table came about. -/
inductive TableKind where
  /-- By a header of its own; the whole document counts as such. -/
  | header
  /-- By a header of a table below it. -/
  | implied
  /-- By a dotted key. -/
  | dotted
  /-- Within braces. -/
  | braced
  deriving DecidableEq, Repr

end Toml

/-- A value of a TOML document. -/
inductive Toml where
  | text (s : String)
  | integer (n : Int)
  /-- A floating-point number as it is written. -/
  | float (literal : String)
  | flag (b : Bool)
  /-- A date, a time, or both, in its usual form. -/
  | moment (text : String)
  | list (items : List Toml)
  | table (kind : Toml.TableKind) (entries : List (String × Toml))
  /-- Tables under headers of one name, in order. -/
  | tables (items : List Toml)
  deriving Repr

namespace Toml

/-- A step that may change a table. -/
abbrev Change := Toml → Option Toml

/-- Changes the table that names lead to, which is made where it is missing. The names of a header
lead through all tables but those in braces, and of several tables under one name to the last; names
of a dotted key do not lead through a table with a header of its own. -/
def changeAt (dotted : Bool) (change : Change) : List String → Change
  | [], t => change t
  | name :: path, .table kind entries =>
    let put := fun (t : Toml) => Toml.table kind (Bindings.put name t entries)
    match Bindings.get? entries name with
    | none =>
      (changeAt dotted change path (.table (if dotted then .dotted else .implied) [])).map put
    | some (.table .braced _) => none
    | some (.table .header es) =>
      if dotted then none else (changeAt dotted change path (.table .header es)).map put
    | some (.table k es) => (changeAt dotted change path (.table k es)).map put
    | some (.tables items) => do
      let last ← changeAt dotted change path (← items.getLast?)
      return put (.tables (items.dropLast ++ [last]))
    | some _ => none
  | _ :: _, _ => none

/-- Gives a value to a dotted key; the table it is put into must have come about by dotted keys, if
the key has more than one name. -/
def putKey (path : List String) (name : String) (value : Toml) : Change :=
  changeAt true (fun
    | .table kind entries =>
      if (kind == .dotted) == path.isEmpty || Bindings.has entries name then none
      else some (.table kind (Bindings.put name value entries))
    | _ => none) path

/-- Opens a table by a header. -/
def openTable (path : List String) (name : String) : Change :=
  changeAt false (fun
    | .table kind entries =>
      match Bindings.get? entries name with
      | none => some (.table kind (entries ++ [(name, .table .header [])]))
      | some (.table .implied es) =>
        some (.table kind (Bindings.erase name entries ++ [(name, .table .header es)]))
      | some _ => none
    | _ => none) path

/-- Adds a table to those under a header of one name. -/
def addTable (path : List String) (name : String) : Change :=
  changeAt false (fun
    | .table kind entries =>
      match Bindings.get? entries name with
      | none => some (.table kind (entries ++ [(name, .tables [.table .header []])]))
      | some (.tables items) =>
        some (.table kind (Bindings.put name (.tables (items ++ [.table .header []])) entries))
      | some _ => none
    | _ => none) path

/-- Gives a value to a dotted key in the table that a header has opened. -/
def putBelow (header path : List String) (name : String) (value : Toml) : Change :=
  changeAt false (putKey path name value) header

end Toml
end PageScript
