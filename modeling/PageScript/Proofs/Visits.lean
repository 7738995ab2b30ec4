import PageScript.Proofs.HistoryAdditions

/-!
# Visits

A visit is the start of an event below a parent together with what the event came to. A history tells
which events have started and what they have come to, and so which visits have been made.

What an event leaves when it has been carried out is told by the event, by what the run remembers when
it begins, and by what the outside answers in the state in which it is then: the rows of the very file
that a table event names, the events of the script that it includes, or the element that it looks for.
-/

namespace PageScript

variable {σ : Type}

/-- The outside may answer an action so, depending on its state. -/
def Outside.Answers (o : Outside σ) (a : Action) (x : a.Answer) : Prop :=
  ∃ s s', (o a s).ending = some (x, s')

/-- The start of an event below a parent, and what the event has come to. -/
structure Visit where
  event : Event
  parent : Option Element
  result : Except Mishap Opened

/-- The event that starts and the parent that it is given. -/
def Visit.start (v : Visit) : Event × Option Element := (v.event, v.parent)

/-- The event and what it has come to. -/
def Visit.outcome (v : Visit) : Event × Except Mishap Opened := (v.event, v.result)

/-! ## What events leave -/

namespace Event

/-- The file that an event names, with variables put in. A table event that names the file of the next
one names none itself, and the next one names this file instead of its own. -/
def file? (setup : Setup) (s : Session) (event : Event) : Option String :=
  let own := (event.actions.text? "file").map (substitute setup.hijacks s.vars)
  if event.kind = .command .csv then
    if (event.actions.text? "override").isSome then none else s.pendingTable.or own
  else own

/-- The name before the dot in the names of the variables that a table event binds. -/
def tableName (setup : Setup) (s : Session) (event : Event) : String :=
  ((event.actions.text? "var").map (substitute setup.hijacks s.vars)).getD "csv"

/-- What the data rows of a table bind, one by one. -/
def rowsOf (setup : Setup) (s : Session) (event : Event) (table : Table) : List Row :=
  table.rows.map (Table.bindings (fun header => event.tableName setup s ++ "." ++ header)
    table.headers)

/-- The selectors of an event, with the variables put in. -/
def wanted (setup : Setup) (event : Event) (vars : Vars) : List (String × String) :=
  event.selectors.entries.map fun (name, value) => (name, substitute setup.hijacks vars value.written)

end Event

/-- What an event leaves when it has been carried out, given what the run remembers when it begins and
the state in which the outside is then. -/
inductive Opens (setup : Setup) (o : Outside σ) (event : Event) (parent : Option Element)
    (s : Session) (outside : σ) : Opened → Prop where
  /-- A table event leaves the data rows of the file that it names. -/
  | rows {file text : String} {after : σ} : event.kind = .command .csv →
      event.file? setup s = some file →
      (o (.readFile (Act.path setup file)) outside).ending = some (.ok text, after) →
      Opens setup o event parent s outside
        { inner := .rows (event.rowsOf setup s (Table.ofText text)) }
  /-- A table event that only names the file of the next one leaves no rows. -/
  | noRows : event.kind = .command .csv → (event.actions.text? "override").isSome →
      Opens setup o event parent s outside { inner := .rows [] }
  /-- An event that includes a script leaves the events that have been loaded from its file. -/
  | script {file : String} {loaded : List Event} {after : σ} : event.kind = .command .script →
      event.file? setup s = some file →
      (o (.loadScript (Act.path setup file)) outside).ending = some (.ok loaded, after) →
      Opens setup o event parent s outside { inner := .events loaded }
  /-- Any other command leaves no element, and neither does a frame. -/
  | command (c : Command) (restore : Restore) : event.kind = .command c → c ≠ .csv →
      c ≠ .script → Opens setup o event parent s outside { restore }
  | frame : event.kind = .frame →
      Opens setup o event parent s outside { restore := .defaultContent }
  /-- Any other event leaves the element that has been found for it below its parent. -/
  | element {element : Element} {after : σ} : event.kind.can .needsElement = true →
      (o (.call (.find (event.wanted setup s.vars) parent setup.elementPatience)) outside).ending =
        some (.ok element, after) →
      Opens setup o event parent s outside { element := some element }

/-! ## What a history tells -/

/-- The events that have started, in order, each with its parent. -/
def starts : List Happening → List (Event × Option Element)
  | [] => []
  | .stage (.started event parent) :: past => starts past ++ [(event, parent)]
  | _ :: past => starts past

/-- What events have come to, in order. -/
def results : List Happening → List (Event × Except Mishap Opened)
  | [] => []
  | .stage (.carriedOut event result) :: past => results past ++ [(event, result)]
  | _ :: past => results past

/-- The browser has been lost, as an event has told. -/
def Lost (history : List Happening) : Prop :=
  ∃ event e, Happening.stage (.failed event (.lost e)) ∈ history

/-- Something that is neither the start of an event nor what an event has come to. -/
def Happening.Idle : Happening → Prop
  | .stage (.started ..) | .stage (.carriedOut ..) => False
  | _ => True

section Histories

variable {h : Happening} {past : List Happening}

theorem starts_idle (hidle : h.Idle) : starts (h :: past) = starts past := by
  rw [starts]
  rintro event parent rfl
  exact hidle

theorem results_idle (hidle : h.Idle) : results (h :: past) = results past := by
  rw [results]
  rintro event result rfl
  exact hidle

theorem idle_passing (hpassing : h.Passing) : h.Idle := by
  unfold Happening.Idle
  split <;> first | cases hpassing | trivial

theorem idle_aside (haside : h.Aside) : h.Idle := by
  rcases haside with hpassing | _ | ⟨-, hplugin⟩
  · exact idle_passing hpassing
  · trivial
  · cases hplugin <;> trivial

theorem idle_closing (hclosing : h.Closing) : h.Idle := by
  rcases hclosing with hpassing | _ | hplugin
  · exact idle_passing hpassing
  · trivial
  · cases hplugin <;> trivial

end Histories

namespace World

variable {w w' w'' : World σ} {made made' : List Visit}

/-- From one world to another these visits have been made. -/
structure Visits (made : List Visit) (w w' : World σ) : Prop where
  starts_eq : starts w'.history = starts w.history ++ made.map Visit.start
  results_eq : results w'.history = results w.history ++ made.map Visit.outcome

theorem Visits.trans (h : Visits made w w') (h' : Visits made' w' w'') :
    Visits (made ++ made') w w'' where
  starts_eq := by rw [h'.starts_eq, h.starts_eq, List.map_append, List.append_assoc]
  results_eq := by rw [h'.results_eq, h.results_eq, List.map_append, List.append_assoc]

/-- Where a history tells of the same visits as before, none has been made. -/
theorem Visits.of_eq (hstarts : starts w'.history = starts w.history)
    (hresults : results w'.history = results w.history) : Visits [] w w' :=
  ⟨hstarts.trans (List.append_nil _).symm, hresults.trans (List.append_nil _).symm⟩

theorem Visits.refl (w : World σ) : Visits [] w w := .of_eq rfl rfl

/-- What is neither the start of an event nor its result makes no visit. -/
theorem Adds.visits {C : Happening → Prop} (h : w.Adds C w') (hidle : ∀ h, C h → h.Idle) :
    Visits [] w w' := by
  have hkeeps := h.keeps (P := fun past => starts past = starts w.history ∧
    results past = results w.history) (fun new past hC hpast =>
      ⟨(starts_idle (hidle new hC)).trans hpast.1, (results_idle (hidle new hC)).trans hpast.2⟩)
      ⟨rfl, rfl⟩
  exact .of_eq hkeeps.1 hkeeps.2

/-- Visits that are followed by none. -/
theorem Visits.adds {C : Happening → Prop} (h : Visits made w w') (hadds : w'.Adds C w'')
    (hidle : ∀ h, C h → h.Idle) : Visits made w w'' := by
  simpa using h.trans (hadds.visits hidle)

end World
end PageScript
