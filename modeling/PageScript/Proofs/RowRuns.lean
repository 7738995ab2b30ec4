import PageScript.Proofs.FileLookups
import PageScript.Proofs.RestoredContext
import PageScript.Proofs.RowCells

/-!
# How the rows of a table are run

A table event runs its children once for each row. In the run of a row its scope is entered, its
cells are bound, and then the children are run. A cell is bound as any variable is: it lands in the
scope of the row, or further out if its name is bound there, as it may be after an earlier row, in a
table around this one or through an event within. Wherever the cells land, they are what the
first child finds: of two columns of one name the right one counts, a row that is too short has empty
cells, and every name that is no column's has the value that it had before the row.

An induction on the rows takes the tour of a table event apart into the runs of the rows. Whatever
the children do, they are run once for each row, in order, as long as the run is neither stopped nor
loses the browser.
-/

namespace PageScript

/-! ## The last binding counts -/

/-- Of all that is bound one after another the last binding of a name counts. -/
theorem Vars.get?_putAll (row : Row) (v : Vars) (name : String) :
    (row.foldl (fun v c => v.put c.1 c.2) v).get? name =
      (row.reverse.lookup name).or (v.get? name) := by
  induction row generalizing v with
  | nil => rfl
  | cons cell row ih =>
    have hcell : List.lookup name [cell] = if name = cell.1 then some cell.2 else none :=
      Bindings.get?_cons cell [] name
    rw [List.foldl_cons, ih, get?_put, List.reverse_cons, List.lookup_append, hcell]
    by_cases h : name = cell.1
    · simp only [if_pos h, Option.or_assoc, Option.some_or]
    · simp only [if_neg h, Option.or_none]

namespace Table

variable {named : String → String} {headers : List String} {header name : String} {i : Nat}

/-- No column binds a name that is not the name of its header. -/
theorem lookup_columns_eq_none (cell : Nat → String)
    (h : ∀ header ∈ headers, name ≠ named header) :
    (headers.mapIdx fun i header => (named header, cell i)).reverse.lookup name = none := by
  rw [List.lookup_eq_none_iff]
  intro column hcolumn
  rw [List.mem_reverse, List.mem_mapIdx] at hcolumn
  obtain ⟨j, hj, rfl⟩ := hcolumn
  exact bne_iff_ne.2 (h _ (List.getElem_mem hj))

/-- Of all columns of one name the rightmost binds it. -/
theorem lookup_bindings (hnamed : Function.Injective named) (row : List String)
    (hheader : headers[i]? = some header) (hlast : header ∉ headers.drop (i + 1)) :
    (bindings named headers row).reverse.lookup (named header) = some (row.getD i "") := by
  obtain ⟨hi, hget⟩ := List.getElem?_eq_some_iff.1 hheader
  have hsplit : headers = headers.take i ++ header :: headers.drop (i + 1) := by
    rw [← hget, ← List.drop_eq_getElem_cons hi, List.take_append_drop]
  have hlength : (headers.take i).length = i := List.length_take_of_le hi.le
  -- the columns to the right bind other names, and those to the left bind theirs before
  have hright : ∀ other ∈ headers.drop (i + 1), named header ≠ named other := by
    intro other hother heq
    exact hlast (hnamed heq ▸ hother)
  rw [bindings, hsplit, List.mapIdx_append, List.mapIdx_cons, List.reverse_append,
    List.reverse_cons, List.append_assoc, List.lookup_append,
    lookup_columns_eq_none _ hright, Option.none_or, List.singleton_append,
    List.lookup_cons_self, hlength, Nat.zero_add]

end Table

section Tours

variable {σ : Type} {o : Outside σ} {setup : Setup} {event : Event} {parent : Option Element}
  {events children : List Event} {s : Session} {w : World σ} {m m' : Moment σ}
  {stays : List (Stay σ)} {r : Except Error Unit}

/-! ## One row -/

/-- The first of the siblings starts where all of them do. -/
theorem Tour.before_head (h : Tour setup o (.siblings events parent) m stays r m')
    {first : Stay σ} (hfirst : stays.head? = some first) : first.before = m := by
  have hsingle {event : Event} {here later : List (Stay σ)} {r : Except Error Unit}
      {m₁ : Moment σ} (hhere : Tour setup o (.single event parent) m here r m₁)
      (hfirst : (here ++ later).head? = some first) : first.before = m := by
    cases hhere <;> cases hfirst <;> rfl
  cases h with
  | none | stopped => cases hfirst
  | next _ hhere _ => exact hsingle hhere hfirst
  | ended _ hhere =>
    rw [← List.append_nil stays] at hfirst
    exact hsingle hhere hfirst

/-- What lies between the beginning of a row and the end of its scope. -/
structure RowRun (σ : Type) where
  /-- The rows before this one are done. -/
  before : Moment σ
  /-- The stays in the children of the table event, which are run for this row. -/
  stays : List (Stay σ)
  /-- The children are done, and the scope of the row is about to be left. -/
  done : Moment σ

/-- In the run of a row the children are run once each, in order. The first of them finds the cells
of the row: of the columns of one name the last one counts, a cell that the row does not have is
empty, and no other name has got or lost a value. -/
structure RowRun.ForRow (setup : Setup) (o : Outside σ) (children : List Event)
    (parent : Option Element) (name : String) (headers row : List String) (rowRun : RowRun σ) :
    Prop where
  tour : Tour setup o (.siblings children parent)
    (rowRun.before.entering (Table.bindings (fun header => name ++ "." ++ header) headers row))
    rowRun.stays (.ok ()) rowRun.done
  starts_eq : rowRun.stays.map (fun stay => stay.visit.start) =
    children.map fun child => (child, parent)
  cells : ∀ first, rowRun.stays.head? = some first → ∀ i header, headers[i]? = some header →
    header ∉ headers.drop (i + 1) →
      first.before.session.vars.get? (name ++ "." ++ header) = some (row.getD i "")
  others : ∀ first, rowRun.stays.head? = some first → ∀ var,
    (∀ header ∈ headers, var ≠ name ++ "." ++ header) →
      first.before.session.vars.get? var = rowRun.before.session.vars.get? var

/-- Whatever is bound where, the first child finds the cells of its row. -/
theorem Tour.forRow {name : String} {headers row : List String}
    (h : Tour setup o (.siblings children parent)
      (m.entering (Table.bindings (fun header => name ++ "." ++ header) headers row)) stays (.ok ())
      m') (hgoes : m'.world.isStopped = false) :
    (RowRun.mk m stays m').ForRow setup o children parent name headers row := by
  have hinjective : Function.Injective fun header => name ++ "." ++ header :=
    fun _ _ heq => (String.append_right_inj (name ++ ".")).1 heq
  -- a new scope hides nothing, so whatever the row does not bind is read as before
  have hvalue (first : Stay σ) (hfirst : stays.head? = some first) (var : String) :
      first.before.session.vars.get? var =
        ((Table.bindings (fun header => name ++ "." ++ header) headers row).reverse.lookup var).or
          (m.session.vars.get? var) := by
    rw [h.before_head hfirst, Moment.entering, Vars.get?_putAll, Vars.get?_push]
  refine ⟨h, h.starts_eq hgoes, fun first hfirst i header hheader hlast => ?_,
    fun first hfirst var hvar => ?_⟩
  · rw [hvalue first hfirst, Table.lookup_bindings hinjective row hheader hlast, Option.some_or]
  · rw [hvalue first hfirst, Table.bindings, Table.lookup_columns_eq_none _ hvar, Option.none_or]

/-! ## All rows -/

/-- The runs of the rows of a table, from the point at which the table has been read to the one at
which all that belongs to the table event is done. After each of them the scope of its row is left. -/
inductive RowRuns (setup : Setup) (o : Outside σ) (children : List Event) (parent : Option Element)
    (name : String) (headers : List String) :
    Moment σ → List (List String) → List (RowRun σ) → Moment σ → Prop where
  | nil (m : Moment σ) : RowRuns setup o children parent name headers m [] [] m
  | cons {row : List String} {rows : List (List String)} {before done m' : Moment σ}
      {stays : List (Stay σ)} {rowRuns : List (RowRun σ)} {vars : Vars} :
      (RowRun.mk before stays done).ForRow setup o children parent name headers row →
      done.session.vars.pop = .ok vars →
      RowRuns setup o children parent name headers (done.withVars vars) rows rowRuns m' →
      RowRuns setup o children parent name headers before (row :: rows)
        (⟨before, stays, done⟩ :: rowRuns)
        m'

/-- **A tour through rows consists of the runs of the rows.** -/
theorem Tour.rowRuns {name : String} {headers : List String} {rows : List (List String)}
    (h : Tour setup o (.rows children parent
      (rows.map (Table.bindings (fun header => name ++ "." ++ header) headers))) m stays (.ok ())
      m') (hgoes : m'.world.isStopped = false) : ∃ rowRuns,
      RowRuns setup o children parent name headers m rows rowRuns m' ∧
        stays = rowRuns.flatMap RowRun.stays := by
  induction rows generalizing m stays with
  | nil =>
    cases h
    exact ⟨[], .nil _, rfl⟩
  | cons row rows ih =>
    cases h with
    | @nextRow _ _ _ _ _ m₁ _ _ here _ _ _ hhere hpop hlater =>
      -- the rows that are left start from the point at which the scope of this one is left
      have hgoes₁ : m₁.world.isStopped = false := hlater.later.goes hgoes
      obtain ⟨rowRuns, hrowRuns, rfl⟩ := ih hlater
      exact ⟨⟨_, here, m₁⟩ :: rowRuns, .cons (hhere.forRow hgoes₁) hpop hrowRuns, rfl⟩
    | stoppedRow hstop => exact absurd hstop (Bool.eq_false_iff.1 hgoes)

/-! ## Reading the table -/

/-- The event names a file, and the outside answers with this text when it is read. -/
def Stay.Reads (setup : Setup) (o : Outside σ) (stay : Stay σ) (text : String) : Prop :=
  ∃ file outside, stay.event.file? setup stay.before.session = some file ∧
    (o (.readFile (Act.path setup file)) stay.before.world.outside).ending =
      some (.ok text, outside)

namespace Act

variable {Q : String → Session → World σ → Prop} {E : Mishap → Session → World σ → Prop}

/-- The table that is chosen is the pending one, or else the event's own. -/
theorem passes_chooseTable {file : String}
    (hfile : s.pendingTable.or
      ((event.actions.text? "file").map (substitute setup.hijacks s.vars)) = some file)
    (h : ∀ s', s'.vars = s.vars → Q file s' w) :
    Stretch.Passes o (Passage.act setup (chooseTable setup event)) s w Q E := by
  refine passes_then (passes_session ?_)
  cases hpending : s.pendingTable with
  | some pending =>
    rw [hpending, Option.some_or] at hfile
    cases hfile
    exact passes_then (passes_edit (passes_pure (h _ rfl)))
  | none =>
    rw [hpending, Option.none_or] at hfile
    refine passes_then (passes_action? "file" ?_)
    rw [hfile]
    exact passes_pure (h s rfl)

theorem passes_readFile {path text : String} {outside : σ}
    (hread : (o (.readFile path) w.outside).ending = some (.ok text, outside))
    (h : ∀ w', Q text s w') :
    Stretch.Passes o (Passage.act setup (readFile path)) s w Q E := by
  refine passes_then (passes_step fun x w' hstep => ?_)
  have hending := (World.ending_of_act hstep).symm.trans hread
  simp only [Option.some.injEq, Prod.mk.injEq] at hending
  obtain ⟨rfl, -⟩ := hending
  exact passes_pure (h w')

/-- Where the file that a table event names is read, the event binds the rows of its text. -/
theorem passes_csv {file text : String} {outside : σ} (hkind : event.kind = .command .csv)
    (hfile : event.file? setup s = some file)
    (hread : (o (.readFile (path setup file)) w.outside).ending = some (.ok text, outside)) :
    Stretch.Passes o (Passage.act setup (csv setup event)) s w
      (fun rows _ _ => rows = rowsOf (event.tableName setup s) (Table.ofText text))
      fun _ _ _ => False := by
  rw [Event.file?, if_pos hkind] at hfile
  unfold csv
  refine passes_then (passes_action? "override" ?_)
  cases hoverride : event.actions.text? "override" with
  | some raw =>
    rw [hoverride] at hfile
    cases hfile
  | none =>
    rw [hoverride] at hfile
    refine passes_then (passes_chooseTable hfile fun s' hvars => ?_)
    refine passes_then (passes_action? "var" ?_)
    refine passes_then (passes_readFile hread fun w' => ?_)
    refine passes_then (passes_say (passes_pure ?_))
    rw [hvars]
    rfl

end Act

/-- A table event whose file is read opens with the rows of its text, each with what it binds. -/
theorem opens_table {result : Except Mishap Opened} {file text : String} {outside : σ}
    (hkind : event.kind = .command .csv) (hfile : event.file? setup m.session = some file)
    (hread : (o (.readFile (Act.path setup file)) m.world.outside).ending =
      some (.ok text, outside))
    (hopen : Stretch.Comes o (Passage.openEvent setup event parent).run (m.starting event parent)
      result m') (hgoes : m'.world.isStopped = false) :
    result = .ok { inner := .rows (Act.rowsOf (event.tableName setup m.session)
      (Table.ofText text)) } := by
  obtain ⟨w, hworld, hcarry⟩ := Stretch.comes_carryOut hopen
  have hgoes₁ : w.isStopped = false := by
    rw [hworld] at hgoes
    exact hgoes
  have hpasses : Stretch.Passes o (Passage.carryOut setup event parent) m.session
      (m.starting event parent).world
      (fun opened _ _ => opened = { inner := .rows (Act.rowsOf (event.tableName setup m.session)
        (Table.ofText text)) }) fun _ _ _ => False := by
    unfold Passage.carryOut
    rw [hkind]
    refine Stretch.Passes.bind (Act.passes_csv hkind hfile hread) ?_
    rintro rows s' w' rfl
    exact Stretch.passes_pure fun _ => rfl
  have hend := hcarry.of_leads hpasses hgoes₁
  cases result with
  | ok opened => exact congrArg Except.ok hend
  | error mishap => exact hend.elim

/-- A table event whose file is read runs its children once for each row. -/
theorem Tour.rowRuns_of_single {result : Except Mishap Opened} {carried done : Moment σ}
    {within : List (Stay σ)} {file text : String} {outside : σ}
    (hkind : event.kind = .command .csv) (hfile : event.file? setup m.session = some file)
    (hread : (o (.readFile (Act.path setup file)) m.world.outside).ending =
      some (.ok text, outside))
    (hopen : Stretch.Comes o (Passage.openEvent setup event parent).run (m.starting event parent)
      result carried)
    (hwithin : Tour setup o (.within event parent result) carried within (.ok ()) done)
    (hgoes : done.world.isStopped = false) : ∃ rowRuns,
      RowRuns setup o event.children parent (event.tableName setup m.session)
        (Table.ofText text).headers carried (Table.ofText text).rows rowRuns done ∧
      within = rowRuns.flatMap RowRun.stays := by
  have hresult := opens_table hkind hfile hread hopen (hwithin.later.goes hgoes)
  subst hresult
  cases hwithin with
  | opened hinner hbelow =>
    rw [lastChildren_table hkind] at hbelow
    cases hbelow
    rw [List.append_nil]
    exact hinner.rowRuns hgoes

/-- **A table event runs its children once for each row.** Take any table event of a run that has
neither been stopped nor lost the browser, whatever the variables were and whatever has been done to
them since, and let its file be read. Then the stays within it are those of the runs of the rows
after the header, in the order of the file. In each of them the children are run once, and the first of
them finds the cells of the row, and all other variables as they were before the row. -/
theorem rowRuns_of_visit (setup : Setup) (o : Outside σ) (depth : Nat) (events : List Event)
    (parent : Option Element) (s : Session) (w : World σ) :
    Stretch.Leads o (Journey.visit setup depth events parent).run s w fun r s' w' =>
      ∃ stays, Tour setup o (.siblings events parent) ⟨s, w⟩ stays r ⟨s', w'⟩ ∧
        (r = .ok () → w'.isStopped = false →
          ∀ stay ∈ Stay.allOf stays, stay.event.kind = .command .csv →
            ∀ text, stay.Reads setup o text → ∃ rowRuns departure,
              stay.departure = some departure ∧ stay.within = rowRuns.flatMap RowRun.stays ∧
              RowRuns setup o stay.event.children stay.visit.parent
                (stay.event.tableName setup stay.before.session) (Table.ofText text).headers
                stay.carried (Table.ofText text).rows rowRuns departure.done) := by
  refine (Journey.tours_visit depth events parent s w).mono ?_
  rintro r s' w' ⟨stays, htour⟩
  refine ⟨stays, htour, ?_⟩
  rintro rfl hgoes stay hmem hkind text ⟨file, outside, hfile, hread⟩
  -- the run has come out of the event again, and nothing had stopped it by then
  have hdeparts := (htour.spans (spans_orders setup o)).departs rfl stay hmem
  obtain ⟨r, m', hsingle, -, hend⟩ := htour.single_between hmem
  obtain ⟨⟨event, parent, result⟩, before, carried, within, departure⟩ := stay
  cases hsingle with
  | lost _ _ _ => cases hdeparts
  | unwound _ _ => cases hdeparts
  | @finished _ _ _ _ _ done _ _ _ hopen hwithin hsettle hfinish =>
    have hgoes₁ : done.world.isStopped = false :=
      (hsettle.later.trans (hfinish.later.trans hend)).goes hgoes
    obtain ⟨rowRuns, hrowRuns, hstays⟩ := Tour.rowRuns_of_single hkind hfile hread hopen hwithin hgoes₁
    exact ⟨rowRuns, _, rfl, hstays, hrowRuns⟩

end Tours

/-! ## A ragged table -/

/-- A column comes twice, the first row is short and the second one is long. -/
def raggedText : String := "a,b,a\n1,2\n3,4,5,6"

/-- A table event whose child removes a variable of the row. -/
def Event.ragged : Event :=
  { kind := .command .csv, name := "csv", actions := ⟨[("file", .text "table.csv")]⟩,
    children := [
      { kind := .command .delete, name := "delete", actions := ⟨[("name", .text "csv.b")]⟩ }] }

/-- Two rows, within a row of a table that has one of the columns, too. -/
theorem rowRuns_of_visit_ragged : Event.ragged.kind = .command .csv ∧
    ∃ s' w', World.run (.holding raggedText)
        ((Journey.visit .small 1 [Event.ragged] none).run Moment.inRow.session)
          Moment.inRow.world = some ((.ok (), s'), w') ∧
      w'.isStopped = false ∧
      ∃ (stay : Stay Unit) (departure : Departure Unit) (first second : RowRun Unit),
        stay.event = Event.ragged ∧ stay.before = Moment.inRow ∧
        stay.Reads .small (.holding raggedText) raggedText ∧ stay.departure = some departure ∧
        stay.within = first.stays ++ second.stays ∧
        first.ForRow .small (.holding raggedText) Event.ragged.children none "csv" ["a", "b", "a"]
          ["1", "2"] ∧
        second.ForRow .small (.holding raggedText) Event.ragged.children none "csv" ["a", "b", "a"]
          ["3", "4", "5", "6"] := by
  have hresult : (World.run (.holding raggedText)
      ((Journey.visit .small 1 [Event.ragged] none).run Moment.inRow.session)
        Moment.inRow.world).map (fun p => (p.1.1, p.2.isStopped)) = some (.ok (), false) := by
    decide +kernel
  have hgoes : Moment.inRow.world.isStopped = false := by decide +kernel
  have hfile : Event.ragged.file? .small Moment.inRow.session = some "table.csv" := by
    decide +kernel
  have htable : Table.ofText raggedText =
      ⟨["a", "b", "a"], [["1", "2"], ["3", "4", "5", "6"]]⟩ := by
    decide +kernel
  obtain ⟨⟨⟨r, s'⟩, w'⟩, hrun, hshown⟩ := Option.map_eq_some_iff.1 hresult
  obtain ⟨rfl, hend⟩ := Prod.mk.inj hshown
  obtain ⟨stays, htour, hrowRuns⟩ := rowRuns_of_visit .small (.holding raggedText) 1 [Event.ragged] none
    Moment.inRow.session Moment.inRow.world _ _ hrun
  refine ⟨rfl, s', w', hrun, hend, ?_⟩
  cases htour with
  | stopped hstop => exact absurd hstop (Bool.eq_false_iff.1 hgoes)
  | next _ hhere hlater =>
    cases hlater
    rw [List.append_nil] at hrowRuns
    cases hhere with
    | finished _ _ _ _ =>
      obtain ⟨rowRuns, ⟨done, left, after⟩, hdeparture, hwithin, hrowRuns⟩ := hrowRuns rfl hend _
        (Stay.mem_allOf_of_mem (.head _)) rfl raggedText ⟨_, (), hfile, rfl⟩
      rw [htable] at hrowRuns
      cases hrowRuns with
      | cons hfirst _ hrowRuns =>
        cases hrowRuns with
        | cons hsecond _ hrowRuns =>
          cases hrowRuns
          rw [List.flatMap_cons, List.flatMap_singleton] at hwithin
          exact ⟨_, _, _, _, rfl, rfl, ⟨_, (), hfile, rfl⟩, hdeparture, hwithin, hfirst, hsecond⟩

end PageScript
