import PageScript.Proofs.CarriedOut

/-!
# Stays

A run comes into an event, carries it out, goes through all that belongs to it, and leaves it. This
is a stay, and the stays of a run form a forest: within the stay in a table event lie those in its
children, once for each row, and within the stay in an event that includes a script lie those in the
events of the script. A stay has no departure if it is still open when the loss of the browser ends
the run.

`Tour` says how a part of a traversal comes from one point of a run to another, and which stays it
makes on the way. There is one rule for each way the traversal can take: a stop leaves out the
siblings and the rows that are left, a failed event has nothing within it, and an error goes out
through all the events around the one that it comes from. What an event does itself is the run of its
own program.

What every step of a tour keeps, the whole tour keeps; `Tour.Spans` gathers what there is to show.
-/

namespace PageScript

variable {σ α : Type}

/-- A point of a run: what it remembers, and its world. -/
structure Moment (σ : Type) where
  session : Session
  world : World σ

namespace Moment

variable (m : Moment σ)

def say (r : Remark) : Moment σ := { m with world := m.world.say r }

/-- An event starts, which is a sign of progress. -/
def starting (event : Event) (parent : Option Element) : Moment σ :=
  { m with world := (m.world.tell (.stage (.started event parent))).pulse }

/-- The scope of a row is entered and its cells are bound. -/
def entering (cells : Row) : Moment σ where
  session := { m.session with vars := cells.foldl (fun v c => v.put c.1 c.2) m.session.vars.push }
  world := m.world.tell (.stage (.row cells))

def withVars (vars : Vars) : Moment σ := { m with session := { m.session with vars } }

theorem later_starting (event : Event) (parent : Option Element) :
    m.world.Later (m.starting event parent).world :=
  ⟨(List.suffix_cons _ _).trans (List.suffix_cons _ _), id, Nat.le_refl _⟩

end Moment

/-- Part of a run comes from one point to another, with this result. -/
def Stretch.Comes (o : Outside σ) (p : Stretch α) (m : Moment σ) (a : α) (m' : Moment σ) : Prop :=
  World.run o (p m.session) m.world = some ((a, m'.session), m'.world)

namespace Stretch.Comes

variable {o : Outside σ} {p : Stretch α} {m m' : Moment σ} {a : α}

/-- What every end of a part of a run is like holds of the end it comes to. -/
theorem of_leads {Q : α → Session → World σ → Prop} (h : Comes o p m a m')
    (hleads : Leads o p m.session m.world Q) : Q a m'.session m'.world :=
  hleads _ _ h

theorem later (h : Comes o p m a m') : m.world.Later m'.world :=
  World.leads_later _ _ _ h

end Stretch.Comes

theorem Stretch.leads_comes {o : Outside σ} {s : Session} {w : World σ} (p : Stretch α) :
    Leads o p s w fun a s' w' => Comes o p ⟨s, w⟩ a ⟨s', w'⟩ :=
  fun _ _ h => h

/-- How an event is left. -/
structure Departure (σ : Type) where
  /-- All that belongs to the event is done. -/
  done : Moment σ
  /-- The context of the browser has been restored, or the failure of the event has been reported. -/
  left : Moment σ
  /-- The event has finished, and so have the plugins after it. -/
  after : Moment σ

/-- The stay of a run in an event. -/
structure Stay (σ : Type) where
  visit : Visit
  before : Moment σ
  /-- The event has been carried out, before all that belongs to it. -/
  carried : Moment σ
  /-- The stays in what belongs to the event, in order. -/
  within : List (Stay σ)
  departure : Option (Departure σ)

namespace Stay

def event (stay : Stay σ) : Event := stay.visit.event

mutual

/-- A stay and all those within it, in the order in which they begin. -/
def all : Stay σ → List (Stay σ)
  | stay@⟨_, _, _, within, _⟩ => stay :: allOf within

/-- The given stays and all those within them, in the order in which they begin. -/
def allOf : List (Stay σ) → List (Stay σ)
  | [] => []
  | stay :: stays => stay.all ++ allOf stays

end

@[simp] theorem allOf_nil : allOf ([] : List (Stay σ)) = [] := by
  rw [allOf]

theorem all_eq (stay : Stay σ) : stay.all = stay :: allOf stay.within := by
  cases stay
  rw [all]

theorem allOf_append (stays stays' : List (Stay σ)) :
    allOf (stays ++ stays') = allOf stays ++ allOf stays' := by
  induction stays with
  | nil => rw [allOf_nil, List.nil_append, List.nil_append]
  | cons stay stays ih => rw [List.cons_append, allOf, allOf, ih, List.append_assoc]

@[simp] theorem allOf_singleton (stay : Stay σ) : allOf [stay] = stay :: allOf stay.within := by
  rw [allOf, allOf_nil, List.append_nil, all_eq]

theorem mem_allOf_of_mem {stay : Stay σ} {stays : List (Stay σ)} (h : stay ∈ stays) :
    stay ∈ allOf stays := by
  obtain ⟨before, later, rfl⟩ := List.append_of_mem h
  rw [allOf_append, allOf, all_eq]
  simp

section Forall

variable {P : Stay σ → Prop} {stays stays' : List (Stay σ)} {stay : Stay σ}

theorem forall_allOf_nil : ∀ stay ∈ allOf ([] : List (Stay σ)), P stay := by
  rw [allOf_nil]
  exact fun _ hmem => by cases hmem

theorem forall_allOf_append : (∀ stay ∈ allOf (stays ++ stays'), P stay) ↔
    (∀ stay ∈ allOf stays, P stay) ∧ ∀ stay ∈ allOf stays', P stay := by
  rw [allOf_append, List.forall_mem_append]

theorem forall_allOf_singleton : (∀ inner ∈ allOf [stay], P inner) ↔
    P stay ∧ ∀ inner ∈ allOf stay.within, P inner := by
  rw [allOf_singleton, List.forall_mem_cons]

end Forall

end Stay

/-- A part of a traversal. -/
inductive Leg where
  /-- One event, below a parent. -/
  | single (event : Event) (parent : Option Element)
  /-- Siblings, below a parent. -/
  | siblings (events : List Event) (parent : Option Element)
  /-- The children of a table event once for each row, below the parent of that event. -/
  | rows (children : List Event) (parent : Option Element) (rows : List Row)
  /-- All that belongs to an event, given what the event itself has come to. -/
  | within (event : Event) (parent : Option Element) (result : Except Mishap Opened)

/-- What belongs to an event and comes before its children. -/
def Inner.leg (children : List Event) (parent : Option Element) : Inner → Leg
  | .nothing => .siblings [] parent
  | .rows cells => .rows children parent cells
  | .events included => .siblings included parent

/-- The children that an event runs last. -/
def Event.lastChildren (event : Event) : List Event :=
  if event.descends then event.children else []

/-- The element that an event is finished with. -/
def Visit.element (v : Visit) : Option Element :=
  match v.result with
  | .ok opened => opened.element
  | .error _ => none

/-- What comes between all that belongs to an event and its finish: the context of the browser is
restored, or the failure of the event is reported. -/
def Journey.settle (setup : Setup) (event : Event) : Except Mishap Opened → Journey Unit
  | .ok opened => leave setup event opened.restore
  | .error mishap => report event (.own mishap)

/-- The stays of a part of a traversal, from one point of a run to another; the error, if there is
one, ends the run. -/
inductive Tour (setup : Setup) (o : Outside σ) :
    Leg → Moment σ → List (Stay σ) → Except Error Unit → Moment σ → Prop where
  | none (parent : Option Element) (m : Moment σ) :
      Tour setup o (.siblings [] parent) m [] (.ok ()) m
  | next {event : Event} {events : List Event} {parent : Option Element} {m m₁ m' : Moment σ}
      {here later : List (Stay σ)} {r : Except Error Unit} : m.world.isStopped = false →
      Tour setup o (.single event parent) m here (.ok ()) m₁ →
      Tour setup o (.siblings events parent) m₁ later r m' →
      Tour setup o (.siblings (event :: events) parent) m (here ++ later) r m'
  | stopped {event : Event} {events : List Event} {parent : Option Element} {m : Moment σ} :
      m.world.isStopped = true → Tour setup o (.siblings (event :: events) parent) m [] (.ok ())
        (m.say (.note .debug .traversal "Stop requested, skipping remaining events"))
  | ended {event : Event} {events : List Event} {parent : Option Element} {m m' : Moment σ}
      {here : List (Stay σ)} {e : Error} : m.world.isStopped = false →
      Tour setup o (.single event parent) m here (.error e) m' →
      Tour setup o (.siblings (event :: events) parent) m here (.error e) m'
  | noRow (children : List Event) (parent : Option Element) (m : Moment σ) :
      Tour setup o (.rows children parent []) m [] (.ok ()) m
  | nextRow {children : List Event} {parent : Option Element} {cells : Row} {rows : List Row}
      {m m₁ m' : Moment σ} {vars : Vars} {here later : List (Stay σ)} {r : Except Error Unit} :
      m.world.isStopped = false →
      Tour setup o (.siblings children parent) (m.entering cells) here (.ok ()) m₁ →
      m₁.session.vars.pop = .ok vars →
      Tour setup o (.rows children parent rows) (m₁.withVars vars) later r m' →
      Tour setup o (.rows children parent (cells :: rows)) m (here ++ later) r m'
  | stoppedRow {children : List Event} {parent : Option Element} {cells : Row} {rows : List Row}
      {m : Moment σ} : m.world.isStopped = true →
      Tour setup o (.rows children parent (cells :: rows)) m [] (.ok ()) m
  | endedRow {children : List Event} {parent : Option Element} {cells : Row} {rows : List Row}
      {m m₁ : Moment σ} {vars : Vars} {here : List (Stay σ)} {e : Error} :
      m.world.isStopped = false →
      Tour setup o (.siblings children parent) (m.entering cells) here (.error e) m₁ →
      m₁.session.vars.pop = .ok vars →
      Tour setup o (.rows children parent (cells :: rows)) m here (.error e) (m₁.withVars vars)
  | failed (event : Event) (parent : Option Element) (mishap : Mishap) (m : Moment σ) :
      Tour setup o (.within event parent (.error mishap)) m [] (.ok ()) m
  | opened {event : Event} {parent : Option Element} {opened : Opened} {m m₁ m' : Moment σ}
      {inner below : List (Stay σ)} {r : Except Error Unit} :
      Tour setup o (opened.inner.leg event.children parent) m inner (.ok ()) m₁ →
      Tour setup o (.siblings event.lastChildren opened.element) m₁ below r m' →
      Tour setup o (.within event parent (.ok opened)) m (inner ++ below) r m'
  | halted {event : Event} {parent : Option Element} {opened : Opened} {m m₁ m' : Moment σ}
      {inner : List (Stay σ)} {e : Error} :
      Tour setup o (opened.inner.leg event.children parent) m inner (.error e) m₁ →
      Stretch.Comes o (Journey.report event (.halted e)).run m₁ (.error e) m' →
      Tour setup o (.within event parent (.ok opened)) m inner (.error e) m'
  | finished {event : Event} {parent : Option Element} {result : Except Mishap Opened}
      {m carried done left after : Moment σ} {within : List (Stay σ)} :
      Stretch.Comes o (Passage.openEvent setup event parent).run (m.starting event parent) result
        carried →
      Tour setup o (.within event parent result) carried within (.ok ()) done →
      Stretch.Comes o (Journey.settle setup event result).run done (.ok ()) left →
      Stretch.Comes o (Journey.finish setup event (Visit.mk event parent result).element).run left
        (.ok ()) after →
      Tour setup o (.single event parent) m
        [⟨⟨event, parent, result⟩, m, carried, within, some ⟨done, left, after⟩⟩] (.ok ()) after
  | lost {event : Event} {parent : Option Element} {result : Except Mishap Opened}
      {m carried done m' : Moment σ} {within : List (Stay σ)} {e : Error} :
      Stretch.Comes o (Passage.openEvent setup event parent).run (m.starting event parent) result
        carried →
      Tour setup o (.within event parent result) carried within (.ok ()) done →
      Stretch.Comes o (Journey.settle setup event result).run done (.error e) m' →
      Tour setup o (.single event parent) m
        [⟨⟨event, parent, result⟩, m, carried, within, .none⟩] (.error e) m'
  | unwound {event : Event} {parent : Option Element} {result : Except Mishap Opened}
      {m carried m' : Moment σ} {within : List (Stay σ)} {e : Error} :
      Stretch.Comes o (Passage.openEvent setup event parent).run (m.starting event parent) result
        carried →
      Tour setup o (.within event parent result) carried within (.error e) m' →
      Tour setup o (.single event parent) m
        [⟨⟨event, parent, result⟩, m, carried, within, .none⟩] (.error e) m'

namespace Tour

variable {setup : Setup} {o : Outside σ} {leg : Leg} {m m' : Moment σ} {stays : List (Stay σ)}
  {r : Except Error Unit}

/-- Every stay that is made on a tour, however deep within others, is a tour of its own. -/
theorem single_of_mem (h : Tour setup o leg m stays r m') {stay : Stay σ}
    (hmem : stay ∈ Stay.allOf stays) :
    ∃ r m', Tour setup o (.single stay.visit.event stay.visit.parent) stay.before [stay] r m' := by
  induction h with
  | none | stopped | noRow | stoppedRow | failed => cases hmem
  | next _ _ _ ihhere ihlater | nextRow _ _ _ _ ihhere ihlater | opened _ _ ihhere ihlater =>
    rw [Stay.allOf_append, List.mem_append] at hmem
    exact hmem.elim ihhere ihlater
  | ended _ _ ih | endedRow _ _ _ ih | halted _ _ ih => exact ih hmem
  | finished hopen hwithin hsettle hfinish ih =>
    rw [Stay.allOf_singleton, List.mem_cons] at hmem
    rcases hmem with rfl | hmem
    · exact ⟨_, _, .finished hopen hwithin hsettle hfinish⟩
    · exact ih hmem
  | lost hopen hwithin hsettle ih =>
    rw [Stay.allOf_singleton, List.mem_cons] at hmem
    rcases hmem with rfl | hmem
    · exact ⟨_, _, .lost hopen hwithin hsettle⟩
    · exact ih hmem
  | unwound hopen hwithin ih =>
    rw [Stay.allOf_singleton, List.mem_cons] at hmem
    rcases hmem with rfl | hmem
    · exact ⟨_, _, .unwound hopen hwithin⟩
    · exact ih hmem

/-- On a tour every event is opened, whatever this comes to. -/
theorem opens (h : Tour setup o leg m stays r m') {stay : Stay σ}
    (hmem : stay ∈ Stay.allOf stays) :
    Stretch.Comes o (Passage.openEvent setup stay.event stay.visit.parent).run
      (stay.before.starting stay.event stay.visit.parent) stay.visit.result stay.carried := by
  obtain ⟨_, _, hsingle⟩ := h.single_of_mem hmem
  obtain ⟨⟨event, parent, result⟩, before, carried, within, departure⟩ := stay
  cases hsingle with
  | finished hopen _ _ _ => exact hopen
  | lost hopen _ _ => exact hopen
  | unwound hopen _ => exact hopen

/-- What belongs to an event is only there if the event has been carried out. -/
theorem within_of_error (h : Tour setup o leg m stays r m') {stay : Stay σ}
    (hmem : stay ∈ Stay.allOf stays) {mishap : Mishap} (hfails : stay.visit.result = .error mishap) :
    stay.within = [] := by
  obtain ⟨_, _, hsingle⟩ := h.single_of_mem hmem
  obtain ⟨⟨event, parent, result⟩, before, carried, within, departure⟩ := stay
  subst hfails
  cases hsingle with
  | finished _ hwithin _ _ | lost _ hwithin _ =>
    cases hwithin
    rfl
  | unwound _ hwithin => cases hwithin

/-- Nothing that has happened is undone on a tour. -/
theorem later (h : Tour setup o leg m stays r m') : m.world.Later m'.world := by
  induction h with
  | none | noRow | stoppedRow | failed => exact .refl _
  | next _ _ _ ihhere ihlater | opened _ _ ihhere ihlater => exact ihhere.trans ihlater
  | stopped => exact World.later_tell _ _
  | ended _ _ ih => exact ih
  | nextRow _ _ _ _ ihhere ihlater =>
    exact (World.later_tell _ _).trans (ihhere.trans ihlater)
  | endedRow _ _ _ ih => exact (World.later_tell _ _).trans ih
  | halted _ hreport ih => exact ih.trans hreport.later
  | finished hopen _ hsettle hfinish ih =>
    exact (Moment.later_starting _ _ _).trans
      (hopen.later.trans (ih.trans (hsettle.later.trans hfinish.later)))
  | lost hopen _ hsettle ih =>
    exact (Moment.later_starting _ _ _).trans (hopen.later.trans (ih.trans hsettle.later))
  | unwound hopen _ ih => exact (Moment.later_starting _ _ _).trans (hopen.later.trans ih)

/-- Unless the run has been stopped or has lost the browser by then, each of the siblings has been run
once below their parent, in order. -/
theorem starts_eq {events : List Event} {parent : Option Element}
    (h : Tour setup o (.siblings events parent) m stays (.ok ()) m')
    (hgoes : m'.world.isStopped = false) :
    stays.map (fun stay => stay.visit.start) = events.map fun event => (event, parent) := by
  induction events generalizing m stays with
  | nil => cases h; rfl
  | cons event events ih =>
    cases h with
    | next _ hhere hlater =>
      rw [List.map_append, ih hlater]
      cases hhere
      rfl
    | stopped hstop => exact absurd hstop (Bool.eq_false_iff.1 hgoes)

/-- There is a stay in each of these siblings, in order. -/
theorem events_eq {events : List Event} {parent : Option Element}
    (h : Tour setup o (.siblings events parent) m stays (.ok ()) m')
    (hgoes : m'.world.isStopped = false) : stays.map Stay.event = events := by
  have hstarts := congrArg (List.map Prod.fst) (h.starts_eq hgoes)
  rw [List.map_map, List.map_map] at hstarts
  exact hstarts.trans (List.map_id events)

/-- What there is to show of a relation between the two ends of a tour and the stays between them. -/
structure Spans (setup : Setup) (o : Outside σ)
    (Q : Moment σ → List (Stay σ) → Except Error Unit → Moment σ → Prop) : Prop where
  refl : ∀ m, Q m [] (.ok ()) m
  trans : ∀ {m m₁ m' here later r}, Q m here (.ok ()) m₁ → Q m₁ later r m' →
    m.world.Later m₁.world → m₁.world.Later m'.world → Q m (here ++ later) r m'
  skips : ∀ {m}, m.world.isStopped = true → Q m [] (.ok ())
    (m.say (.note .debug .traversal "Stop requested, skipping remaining events"))
  row : ∀ {m cells here r m₁ vars}, m.world.isStopped = false → m₁.session.vars.pop = .ok vars →
    Q (m.entering cells) here r m₁ → Q m here r (m₁.withVars vars)
  halts : ∀ {m here e m₁ event m'}, Q m here (.error e) m₁ →
    Stretch.Comes o (Journey.report event (.halted e)).run m₁ (.error e) m' → Q m here (.error e) m'
  finishes : ∀ {m event parent result carried within done left after},
    Stretch.Comes o (Passage.openEvent setup event parent).run (m.starting event parent) result
      carried →
    Tour setup o (.within event parent result) carried within (.ok ()) done →
    Q carried within (.ok ()) done →
    Stretch.Comes o (Journey.settle setup event result).run done (.ok ()) left →
    Stretch.Comes o (Journey.finish setup event (Visit.mk event parent result).element).run left
      (.ok ()) after →
    Q m [⟨⟨event, parent, result⟩, m, carried, within, some ⟨done, left, after⟩⟩] (.ok ()) after
  loses : ∀ {m event parent result carried within done e m'},
    Stretch.Comes o (Passage.openEvent setup event parent).run (m.starting event parent) result
      carried →
    Tour setup o (.within event parent result) carried within (.ok ()) done →
    Q carried within (.ok ()) done →
    Stretch.Comes o (Journey.settle setup event result).run done (.error e) m' →
    Q m [⟨⟨event, parent, result⟩, m, carried, within, .none⟩] (.error e) m'
  unwinds : ∀ {m event parent result carried within e m'},
    Stretch.Comes o (Passage.openEvent setup event parent).run (m.starting event parent) result
      carried →
    Tour setup o (.within event parent result) carried within (.error e) m' →
    Q carried within (.error e) m' →
    Q m [⟨⟨event, parent, result⟩, m, carried, within, .none⟩] (.error e) m'

/-- What every step of a tour keeps, the whole tour keeps. -/
theorem spans {Q : Moment σ → List (Stay σ) → Except Error Unit → Moment σ → Prop}
    (hspans : Spans setup o Q) (h : Tour setup o leg m stays r m') : Q m stays r m' := by
  induction h with
  | none | noRow | stoppedRow | failed => exact hspans.refl _
  | next _ hhere hlater ihhere ihlater | opened hhere hlater ihhere ihlater =>
    exact hspans.trans ihhere ihlater hhere.later hlater.later
  | stopped hstop => exact hspans.skips hstop
  | ended _ _ ih => exact ih
  | nextRow hstop hhere hpop hlater ihhere ihlater =>
    have hrow := hspans.row hstop hpop ihhere
    exact hspans.trans hrow ihlater ((World.later_tell _ _).trans hhere.later) hlater.later
  | endedRow hstop _ hpop ih => exact hspans.row hstop hpop ih
  | halted _ hreport ih => exact hspans.halts ih hreport
  | finished hopen hwithin hsettle hfinish ih =>
    exact hspans.finishes hopen hwithin ih hsettle hfinish
  | lost hopen hwithin hsettle ih => exact hspans.loses hopen hwithin ih hsettle
  | unwound hopen hwithin ih => exact hspans.unwinds hopen hwithin ih

end Tour

/-! ## A run goes one way only -/

theorem Stretch.Comes.unique {o : Outside σ} {p : Stretch α} {m m' m'' : Moment σ} {a b : α}
    (h : Stretch.Comes o p m a m') (h' : Stretch.Comes o p m b m'') : b = a ∧ m'' = m' := by
  have heq := Option.some.inj (h.symm.trans h')
  obtain ⟨hpair, hworld⟩ := Prod.mk.inj heq
  obtain ⟨ha, hsession⟩ := Prod.mk.inj hpair
  obtain ⟨s, w⟩ := m'
  obtain ⟨s', w'⟩ := m''
  exact ⟨ha.symm, by rw [← show s = s' from hsession, ← show w = w' from hworld]⟩

/-- How an event is left after what belongs to it has come to a result. -/
inductive Closes (setup : Setup) (o : Outside σ) (event : Event) (parent : Option Element)
    (result : Except Mishap Opened) (done : Moment σ) :
    Except Error Unit → Option (Departure σ) → Except Error Unit → Moment σ → Prop where
  | finished {left after : Moment σ} :
      Stretch.Comes o (Journey.settle setup event result).run done (.ok ()) left →
      Stretch.Comes o (Journey.finish setup event (Visit.mk event parent result).element).run left
        (.ok ()) after →
      Closes setup o event parent result done (.ok ()) (some ⟨done, left, after⟩) (.ok ()) after
  | lost {m' : Moment σ} {e : Error} :
      Stretch.Comes o (Journey.settle setup event result).run done (.error e) m' →
      Closes setup o event parent result done (.ok ()) none (.error e) m'
  | unwound (e : Error) : Closes setup o event parent result done (.error e) none (.error e) done

section Closes

variable {setup : Setup} {o : Outside σ} {event : Event} {parent : Option Element}
  {result : Except Mishap Opened} {done m' m'' : Moment σ} {departure departure' : Option (Departure σ)}
  {rw r r' : Except Error Unit}

theorem Closes.later (h : Closes setup o event parent result done rw departure r m') :
    done.world.Later m'.world := by
  cases h with
  | finished hsettle hfinish => exact hsettle.later.trans hfinish.later
  | lost hsettle => exact hsettle.later
  | unwound e => exact .refl _

theorem Closes.unique (h : Closes setup o event parent result done rw departure r m')
    (h' : Closes setup o event parent result done rw departure' r' m'') :
    departure' = departure ∧ r' = r ∧ m'' = m' := by
  cases h with
  | finished hsettle hfinish =>
    cases h' with
    | finished hsettle' hfinish' =>
      obtain ⟨-, rfl⟩ := hsettle.unique hsettle'
      obtain ⟨-, rfl⟩ := hfinish.unique hfinish'
      exact ⟨rfl, rfl, rfl⟩
    | lost hsettle' => cases (hsettle.unique hsettle').1
  | lost hsettle =>
    cases h' with
    | finished hsettle' _ => cases (hsettle.unique hsettle').1
    | lost hsettle' =>
      obtain ⟨he, rfl⟩ := hsettle.unique hsettle'
      exact ⟨rfl, he, rfl⟩
  | unwound e =>
    cases h'
    exact ⟨rfl, rfl, rfl⟩

end Closes

namespace Tour

variable {setup : Setup} {o : Outside σ} {leg : Leg} {event : Event} {events children : List Event}
  {parent : Option Element} {cells : Row} {rows : List Row} {vars : Vars} {e : Error}
  {m m₁ m' m'' : Moment σ} {stays stays' here later : List (Stay σ)}
  {r r' : Except Error Unit}

/-- A tour of one event comes into it, goes through all that belongs to it, and leaves it. -/
theorem single_inv (h : Tour setup o (.single event parent) m stays r m') :
    ∃ result carried within rw done departure,
      Stretch.Comes o (Passage.openEvent setup event parent).run (m.starting event parent) result
        carried ∧
      Tour setup o (.within event parent result) carried within rw done ∧
      Closes setup o event parent result done rw departure r m' ∧
      stays = [⟨⟨event, parent, result⟩, m, carried, within, departure⟩] := by
  cases h with
  | finished hopen hwithin hsettle hfinish =>
    exact ⟨_, _, _, _, _, _, hopen, hwithin, .finished hsettle hfinish, rfl⟩
  | lost hopen hwithin hsettle => exact ⟨_, _, _, _, _, _, hopen, hwithin, .lost hsettle, rfl⟩
  | unwound hopen hwithin => exact ⟨_, _, _, _, _, _, hopen, hwithin, .unwound _, rfl⟩

/-- There is no other tour of this way from this point of a run. -/
def Only (setup : Setup) (o : Outside σ) (leg : Leg) (m : Moment σ) (stays : List (Stay σ))
    (r : Except Error Unit) (m' : Moment σ) : Prop :=
  ∀ ⦃stays' r' m''⦄, Tour setup o leg m stays' r' m'' → stays' = stays ∧ r' = r ∧ m'' = m'

namespace Only

theorem next (hgoes : m.world.isStopped = false)
    (hhere : Only setup o (.single event parent) m here (.ok ()) m₁)
    (hlater : Only setup o (.siblings events parent) m₁ later r m') :
    Only setup o (.siblings (event :: events) parent) m (here ++ later) r m' := by
  intro _ _ _ h
  cases h with
  | next _ hhere' hlater' =>
    obtain ⟨rfl, -, rfl⟩ := hhere hhere'
    obtain ⟨rfl, rfl, rfl⟩ := hlater hlater'
    exact ⟨rfl, rfl, rfl⟩
  | stopped hstop => exact absurd hstop (Bool.eq_false_iff.1 hgoes)
  | ended _ hhere' => cases (hhere hhere').2.1

theorem ended (hgoes : m.world.isStopped = false)
    (hhere : Only setup o (.single event parent) m here (.error e) m') :
    Only setup o (.siblings (event :: events) parent) m here (.error e) m' := by
  intro _ _ _ h
  cases h with
  | next _ hhere' _ => cases (hhere hhere').2.1
  | stopped hstop => exact absurd hstop (Bool.eq_false_iff.1 hgoes)
  | ended _ hhere' => exact hhere hhere'

theorem stopped (hstop : m.world.isStopped = true) :
    Only setup o (.siblings (event :: events) parent) m [] (.ok ())
      (m.say (.note .debug .traversal "Stop requested, skipping remaining events")) := by
  intro _ _ _ h
  cases h with
  | next hgoes _ _ | ended hgoes _ => exact absurd hstop (Bool.eq_false_iff.1 hgoes)
  | stopped _ => exact ⟨rfl, rfl, rfl⟩

theorem nextRow (hgoes : m.world.isStopped = false)
    (hhere : Only setup o (.siblings children parent) (m.entering cells) here (.ok ()) m₁)
    (hpop : m₁.session.vars.pop = .ok vars)
    (hlater : Only setup o (.rows children parent rows) (m₁.withVars vars) later r m') :
    Only setup o (.rows children parent (cells :: rows)) m (here ++ later) r m' := by
  intro _ _ _ h
  cases h with
  | nextRow _ hhere' hpop' hlater' =>
    obtain ⟨rfl, -, rfl⟩ := hhere hhere'
    cases hpop.symm.trans hpop'
    obtain ⟨rfl, rfl, rfl⟩ := hlater hlater'
    exact ⟨rfl, rfl, rfl⟩
  | stoppedRow hstop => exact absurd hstop (Bool.eq_false_iff.1 hgoes)
  | endedRow _ hhere' _ => cases (hhere hhere').2.1

theorem endedRow (hgoes : m.world.isStopped = false)
    (hhere : Only setup o (.siblings children parent) (m.entering cells) here (.error e) m₁)
    (hpop : m₁.session.vars.pop = .ok vars) :
    Only setup o (.rows children parent (cells :: rows)) m here (.error e) (m₁.withVars vars) := by
  intro _ _ _ h
  cases h with
  | nextRow _ hhere' _ _ => cases (hhere hhere').2.1
  | stoppedRow hstop => exact absurd hstop (Bool.eq_false_iff.1 hgoes)
  | endedRow _ hhere' hpop' =>
    obtain ⟨rfl, he, rfl⟩ := hhere hhere'
    cases hpop.symm.trans hpop'
    exact ⟨rfl, he, rfl⟩

theorem stoppedRow (hstop : m.world.isStopped = true) :
    Only setup o (.rows children parent (cells :: rows)) m [] (.ok ()) m := by
  intro _ _ _ h
  cases h with
  | nextRow hgoes _ _ _ | endedRow hgoes _ _ => exact absurd hstop (Bool.eq_false_iff.1 hgoes)
  | stoppedRow _ => exact ⟨rfl, rfl, rfl⟩

theorem opened {opened : Opened}
    (hinner : Only setup o (opened.inner.leg event.children parent) m here (.ok ()) m₁)
    (hbelow : Only setup o (.siblings event.lastChildren opened.element) m₁ later r m') :
    Only setup o (.within event parent (.ok opened)) m (here ++ later) r m' := by
  intro _ _ _ h
  cases h with
  | opened hinner' hbelow' =>
    obtain ⟨rfl, -, rfl⟩ := hinner hinner'
    obtain ⟨rfl, rfl, rfl⟩ := hbelow hbelow'
    exact ⟨rfl, rfl, rfl⟩
  | halted hinner' _ => cases (hinner hinner').2.1

theorem halted {opened : Opened}
    (hinner : Only setup o (opened.inner.leg event.children parent) m here (.error e) m₁)
    (hreport : Stretch.Comes o (Journey.report event (.halted e)).run m₁ (.error e) m') :
    Only setup o (.within event parent (.ok opened)) m here (.error e) m' := by
  intro _ _ _ h
  cases h with
  | opened hinner' _ => cases (hinner hinner').2.1
  | halted hinner' hreport' =>
    obtain ⟨rfl, he, rfl⟩ := hinner hinner'
    cases he
    obtain ⟨-, rfl⟩ := hreport.unique hreport'
    exact ⟨rfl, rfl, rfl⟩

/-- A tour of one event is left in one way, if there is one tour of what belongs to the event. -/
theorem single {result : Except Mishap Opened} {carried done : Moment σ} {rw : Except Error Unit}
    {departure : Option (Departure σ)}
    (hopen : Stretch.Comes o (Passage.openEvent setup event parent).run (m.starting event parent)
      result carried)
    (hwithin : Only setup o (.within event parent result) carried here rw done)
    (hcloses : Closes setup o event parent result done rw departure r m') :
    Only setup o (.single event parent) m
      [⟨⟨event, parent, result⟩, m, carried, here, departure⟩] r m' := by
  intro _ _ _ h
  obtain ⟨result', carried', within', rw', done', departure', hopen', hwithin', hcloses', rfl⟩ :=
    h.single_inv
  obtain ⟨rfl, rfl⟩ := hopen.unique hopen'
  obtain ⟨rfl, rfl, rfl⟩ := hwithin hwithin'
  obtain ⟨rfl, rfl, rfl⟩ := hcloses.unique hcloses'
  exact ⟨rfl, rfl, rfl⟩

end Only

theorem only (h : Tour setup o leg m stays r m') : Only setup o leg m stays r m' := by
  induction h with
  | none | noRow | failed =>
    intro _ _ _ h'
    cases h'
    exact ⟨rfl, rfl, rfl⟩
  | next hgoes _ _ ihhere ihlater => exact .next hgoes ihhere ihlater
  | stopped hstop => exact .stopped hstop
  | ended hgoes _ ih => exact .ended hgoes ih
  | nextRow hgoes _ hpop _ ihhere ihlater => exact .nextRow hgoes ihhere hpop ihlater
  | stoppedRow hstop => exact .stoppedRow hstop
  | endedRow hgoes _ hpop ih => exact .endedRow hgoes ih hpop
  | opened _ _ ihinner ihbelow => exact .opened ihinner ihbelow
  | halted _ hreport ih => exact .halted ih hreport
  | finished hopen _ hsettle hfinish ih => exact .single hopen ih (.finished hsettle hfinish)
  | lost hopen _ hsettle ih => exact .single hopen ih (.lost hsettle)
  | unwound hopen _ ih => exact .single hopen ih (.unwound _)

/-- From one point of a run there is one tour of a part of the traversal. -/
theorem unique (h : Tour setup o leg m stays r m') (h' : Tour setup o leg m stays' r' m'') :
    stays' = stays ∧ r' = r ∧ m'' = m' :=
  h.only h'

/-- Every stay is a tour of its own, which lies within the tour on which it is made. -/
theorem single_between (h : Tour setup o leg m stays r m') {stay : Stay σ}
    (hmem : stay ∈ Stay.allOf stays) : ∃ r m₁,
      Tour setup o (.single stay.event stay.visit.parent) stay.before [stay] r m₁ ∧
      m.world.Later stay.before.world ∧ m₁.world.Later m'.world := by
  induction h with
  | none | stopped | noRow | stoppedRow | failed => cases hmem
  | next _ hhere hlater ihhere ihlater | opened hhere hlater ihhere ihlater =>
    -- the stay is in the first part of the way or in the rest of it
    rw [Stay.allOf_append, List.mem_append] at hmem
    rcases hmem with hmem | hmem
    · obtain ⟨r, m₁, hsingle, hbegin, hend⟩ := ihhere hmem
      exact ⟨r, m₁, hsingle, hbegin, hend.trans hlater.later⟩
    · obtain ⟨r, m₁, hsingle, hbegin, hend⟩ := ihlater hmem
      exact ⟨r, m₁, hsingle, hhere.later.trans hbegin, hend⟩
  | nextRow _ hhere _ hlater ihhere ihlater =>
    rw [Stay.allOf_append, List.mem_append] at hmem
    rcases hmem with hmem | hmem
    · obtain ⟨r, m₁, hsingle, hbegin, hend⟩ := ihhere hmem
      exact ⟨r, m₁, hsingle, (World.later_tell _ _).trans hbegin, hend.trans hlater.later⟩
    · obtain ⟨r, m₁, hsingle, hbegin, hend⟩ := ihlater hmem
      exact ⟨r, m₁, hsingle, (World.later_tell _ _).trans (hhere.later.trans hbegin), hend⟩
  | ended _ _ ih => exact ih hmem
  | endedRow _ _ _ ih =>
    obtain ⟨r, m₁, hsingle, hbegin, hend⟩ := ih hmem
    exact ⟨r, m₁, hsingle, (World.later_tell _ _).trans hbegin, hend⟩
  | halted _ hreport ih =>
    obtain ⟨r, m₁, hsingle, hbegin, hend⟩ := ih hmem
    exact ⟨r, m₁, hsingle, hbegin, hend.trans hreport.later⟩
  | finished hopen hwithin hsettle hfinish ih =>
    -- it is the stay at the event itself or one within
    rw [Stay.allOf_singleton, List.mem_cons] at hmem
    rcases hmem with rfl | hmem
    · exact ⟨_, _, .finished hopen hwithin hsettle hfinish, .refl _, .refl _⟩
    · obtain ⟨r, m₁, hsingle, hbegin, hend⟩ := ih hmem
      exact ⟨r, m₁, hsingle, (Moment.later_starting _ _ _).trans (hopen.later.trans hbegin),
        hend.trans (hsettle.later.trans hfinish.later)⟩
  | lost hopen hwithin hsettle ih =>
    rw [Stay.allOf_singleton, List.mem_cons] at hmem
    rcases hmem with rfl | hmem
    · exact ⟨_, _, .lost hopen hwithin hsettle, .refl _, .refl _⟩
    · obtain ⟨r, m₁, hsingle, hbegin, hend⟩ := ih hmem
      exact ⟨r, m₁, hsingle, (Moment.later_starting _ _ _).trans (hopen.later.trans hbegin),
        hend.trans hsettle.later⟩
  | unwound hopen hwithin ih =>
    rw [Stay.allOf_singleton, List.mem_cons] at hmem
    rcases hmem with rfl | hmem
    · exact ⟨_, _, .unwound hopen hwithin, .refl _, .refl _⟩
    · obtain ⟨r, m₁, hsingle, hbegin, hend⟩ := ih hmem
      exact ⟨r, m₁, hsingle, (Moment.later_starting _ _ _).trans (hopen.later.trans hbegin), hend⟩

end Tour
end PageScript
