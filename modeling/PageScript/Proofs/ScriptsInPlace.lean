import PageScript.Proofs.WorldsAbreast
import PageScript.Proofs.FileLookups

/-!
# Scripts in place of the events that include them

An event that includes a script runs the events of the script below the parent that it has been given
itself, and changes nothing that the run remembers. So in its place there might as well stand the
events of the script: the run makes the same calls, and comes by the same points.
-/

namespace PageScript

open Stretch

variable {σ : Type} {o : Outside σ} {setup : Setup} {inclusion : Event} {included : List Event}

/-! ## Lists of events -/

/-- A list of events and the one that comes of it if, here and there in it and at any depth, the
events of a script are put in the place of an event that includes it. -/
inductive InPlace (inclusion : Event) (included : List Event) : List Event → List Event → Prop where
  | nil : InPlace inclusion included [] []
  | keep {event : Event} {children events events' : List Event} :
      InPlace inclusion included event.children children →
      InPlace inclusion included events events' →
      InPlace inclusion included (event :: events) ({ event with children } :: events')
  | put {events events' : List Event} : InPlace inclusion included events events' →
      InPlace inclusion included (inclusion :: events) (included ++ events')

namespace InPlace

/-- The events of a script need be put nowhere. -/
theorem refl (inclusion : Event) (included : List Event) :
    ∀ events, InPlace inclusion included events events
  | [] => .nil
  | ⟨_, _, _, _, _, _, children⟩ :: events =>
    .keep (refl inclusion included children) (refl inclusion included events)

/-- What is run last of an event has come about so, too. -/
theorem lastChildren {event : Event} {children : List Event}
    (h : InPlace inclusion included event.children children) :
    InPlace inclusion included event.lastChildren { event with children }.lastChildren := by
  have hlast (event : Event) : event.lastChildren =
      if event.kind.can .ownsChildren = true then [] else event.children := by
    unfold Event.lastChildren Event.descends
    cases event.children with
    | nil => simp
    | cons child later => cases event.kind.can .ownsChildren <;> rfl
  rw [hlast, hlast]
  dsimp only
  split
  · exact .nil
  · exact h

end InPlace

/-- A part of a traversal and the one that comes of it. -/
inductive Leg.InPlace (inclusion : Event) (included : List Event) : Leg → Leg → Prop where
  | single {event : Event} {children : List Event} (parent : Option Element) :
      PageScript.InPlace inclusion included event.children children →
      Leg.InPlace inclusion included (.single event parent) (.single { event with children } parent)
  | put (parent : Option Element) :
      Leg.InPlace inclusion included (.single inclusion parent) (.siblings included parent)
  | siblings {events events' : List Event} (parent : Option Element) :
      PageScript.InPlace inclusion included events events' →
      Leg.InPlace inclusion included (.siblings events parent) (.siblings events' parent)
  | rows {children children' : List Event} (parent : Option Element) (rows : List Row) :
      PageScript.InPlace inclusion included children children' →
      Leg.InPlace inclusion included (.rows children parent rows) (.rows children' parent rows)
  | within {event : Event} {children : List Event} (parent : Option Element)
      (result : Except Mishap Opened) :
      PageScript.InPlace inclusion included event.children children →
      Leg.InPlace inclusion included (.within event parent result)
        (.within { event with children } parent result)
  | inside (parent : Option Element) :
      Leg.InPlace inclusion included (.within inclusion parent (.ok { inner := .events included }))
        (.siblings included parent)

theorem Inner.leg_inPlace {children children' : List Event} (parent : Option Element)
    (h : InPlace inclusion included children children') (inner : Inner) :
    (inner.leg children parent).InPlace inclusion included (inner.leg children' parent) := by
  cases inner with
  | nothing => exact .siblings parent .nil
  | rows cells => exact .rows parent cells h
  | events included' => exact .siblings parent (.refl inclusion included included')

/-! ## Stays -/

/-- A line of the log that an event that includes a script has of its own. -/
inductive Event.OwnLine (event : Event) : Report → Prop where
  | started : OwnLine event (.log (event.name ++ " event started..."))
  | running (path : String) : OwnLine event (.log ("Running script '" ++ path ++ "'."))
  | finished : OwnLine event (.log (event.name ++ " event finished."))

structure Departure.Abreast (own : Report → Prop) (d d' : Departure σ) : Prop where
  done : d.done.Abreast own d'.done
  left : d.left.Abreast own d'.left
  after : d.after.Abreast own d'.after

/-- Two stays in the same event but for its children, below the same parent and with the same result:
all points of them are abreast. -/
structure Stay.Abreast (own : Report → Prop) (stay stay' : Stay σ) : Prop where
  event_eq : stay'.event = { stay.event with children := stay'.event.children }
  parent_eq : stay'.visit.parent = stay.visit.parent
  result_eq : stay'.visit.result = stay.visit.result
  before : stay.before.Abreast own stay'.before
  carried : stay.carried.Abreast own stay'.carried
  departure : Option.Rel (Departure.Abreast own) stay.departure stay'.departure

/-- The stays of two runs, of which the second one has the events of a script in the place of an event
that includes it. -/
inductive Mirrors (inclusion : Event) : List (Stay σ) → List (Stay σ) → Prop where
  | nil : Mirrors inclusion [] []
  | keep {stay stay' : Stay σ} {stays stays' : List (Stay σ)} :
      stay.Abreast inclusion.OwnLine stay' → Mirrors inclusion stay.within stay'.within →
      Mirrors inclusion stays stays' → Mirrors inclusion (stay :: stays) (stay' :: stays')
  | put {stay : Stay σ} {stays within stays' : List (Stay σ)} : stay.event = inclusion →
      Mirrors inclusion stay.within within → Mirrors inclusion stays stays' →
      Mirrors inclusion (stay :: stays) (within ++ stays')

theorem Mirrors.append {stays stays' later later' : List (Stay σ)}
    (h : Mirrors inclusion stays stays') (h' : Mirrors inclusion later later') :
    Mirrors inclusion (stays ++ later) (stays' ++ later') := by
  induction h with
  | nil => exact h'
  | keep hstay hwithin _ _ ih => exact .keep hstay hwithin ih
  | put hevent hwithin _ _ ih =>
    rw [List.cons_append, List.append_assoc]
    exact .put hevent hwithin ih

/-! ## The event that includes the script -/

/-- An event includes a script and does nothing else. -/
structure Setup.Includes (setup : Setup) (inclusion : Event) : Prop where
  kind : inclusion.kind = .command .script
  childless : inclusion.children = []
  canLoad : setup.canLoad = true

theorem Setup.Includes.lastChildren (h : setup.Includes inclusion) : inclusion.lastChildren = [] := by
  unfold Event.lastChildren
  split
  · exact h.childless
  · rfl

/-- At this point of a run the file of an event is a path for which these events are loaded at once. -/
def Moment.Loads (setup : Setup) (o : Outside σ) (inclusion : Event) (included : List Event)
    (m : Moment σ) : Prop :=
  ∃ file, inclusion.file? setup m.session = some file ∧
    (o (.loadScript (Act.path setup file)) m.world.outside).AtOnce m.world.outside (.ok included)

section Alone

variable {s : Session} {w w' : World σ} {m m' m₁ : Moment σ} {parent : Option Element}
  {event : Event}

theorem Stretch.leads_require {name text : String}
    {F : Except Mishap String → Session → World σ → Prop}
    (htext : (event.actions.text? name).map (substitute setup.hijacks s.vars) = some text) :
    Leads o (Act.play setup (Act.require setup event name)) s w F ↔ F (.ok text) s w := by
  obtain ⟨raw, hraw, rfl⟩ := Option.map_eq_some_iff.1 htext
  have hfill {F : Except Mishap String → Session → World σ → Prop} :
      Leads o (Act.play setup (Act.fill setup raw)) s w F ↔
        F (.ok (substitute setup.hijacks s.vars raw)) s w := by
    rw [Act.fill, leads_play_bind, Act.session, leads_play_move, Move.play, leads_get]
    exact leads_play_pure _
  rw [Act.require, leads_play_bind, Act.action?, hraw, Act.fill?, leads_play_bind, hfill]
  dsimp only
  rw [leads_play_pure]
  exact leads_play_pure _

/-- Something may go on in one of two runs that are abreast as long as what it remembers stays the
same. -/
theorem Moment.Abreast.left {own : Report → Prop} (h : m.Abreast own m')
    (hsession : m₁.session = m.session) (hworld : m₁.world.Abreast own m'.world) :
    m₁.Abreast own m' :=
  ⟨by rw [hsession, h.session_eq], by rw [hsession, h.registry], hworld⟩

/-- A script may be loaded in one of two runs that are abreast. -/
theorem Stretch.leads_script_left (hcan : setup.canLoad = true) {file : String}
    (hfile : (inclusion.actions.text? "file").map (substitute setup.hijacks s.vars) = some file)
    {w' : World σ} (h : w.Abreast inclusion.OwnLine w') (hgoes : w.isStopped = false)
    (hload : (o (.loadScript (Act.path setup file)) w.outside).AtOnce w.outside (.ok included)) :
    Leads o (Act.play setup (Act.script setup inclusion)) s w fun r s' v => v.Untripped →
      r = .ok included ∧ s' = s ∧ v.Abreast inclusion.OwnLine w' := by
  rw [Act.script, leads_play_bind, leads_require hfile]
  dsimp only
  split
  · rename_i hnone
    rw [hcan] at hnone
    cases hnone
  rw [leads_play_bind, Act.perform, Act.step, leads_play_bind, leads_play_move, Move.play,
    leads_ofWorker, World.leads_guarded, if_neg (by simp [hgoes])]
  rcases hact : w.act o (.untilStop none) (.loadScript (Act.path setup file)) with ⟨r, v⟩
  have hloaded (hun : v.Untripped) : r = .ok (.ok included) ∧
      v.Abreast inclusion.OwnLine w' := by
    obtain ⟨v', heq, -, habreast⟩ := h.load_left hgoes hload (by rw [hact]; exact hun)
    obtain ⟨rfl, rfl⟩ := Prod.mk.inj (hact.symm.trans heq)
    exact ⟨rfl, habreast⟩
  dsimp only [World.step]
  rw [hact]
  rcases r with cut | r
  · exact leads_play_fail _ |>.2 fun hun => by cases (hloaded hun).1
  dsimp only [Act.orAbort]
  rw [leads_play_pure]
  dsimp only
  rcases r with e | events
  · exact leads_play_fail _ |>.2 fun hun => by cases (hloaded hun).1
  dsimp only
  rw [leads_play_bind, Act.log, leads_play_say]
  refine leads_play_pure _ |>.2 fun hun => ?_
  obtain ⟨heq, habreast⟩ := hloaded (hun.before (World.later_tell _ _))
  cases heq
  exact ⟨rfl, rfl, habreast.tell_left fun _ heq => by cases heq; exact .running _⟩

/-- An event that includes a script may be carried out in one of two runs that are abreast. -/
theorem Moment.Abreast.opens_left (hincludes : setup.Includes inclusion)
    (h : m.Abreast inclusion.OwnLine m') (hgoes : m.world.isStopped = false)
    (hloads : m.Loads setup o inclusion included) {result : Except Mishap Opened}
    (hopen : Comes o (Passage.openEvent setup inclusion parent).run (m.starting inclusion parent)
      result m₁) (hun : m₁.world.Untripped) :
    result = .ok { inner := .events included } ∧ m₁.Abreast inclusion.OwnLine m' := by
  obtain ⟨file, hfile, hload⟩ := hloads
  have hkind : inclusion.kind ≠ .command .csv := by rw [hincludes.kind]; decide
  rw [Act.file?_of_kind_ne hkind] at hfile
  have hstarted : (m.starting inclusion parent).world.Abreast inclusion.OwnLine m'.world :=
    (h.world.tell_left fun _ heq => by cases heq; exact .started).pulse_left
  have hscript := leads_script_left hincludes.canLoad hfile hstarted hgoes hload
  -- only the first run makes these moves; the other one stays where it is
  let Q (r : Except Mishap Opened) (s' : Session) (v : World σ) : Prop := v.Untripped →
    r = .ok { inner := .events included } ∧ s' = m.session ∧ v.Abreast inclusion.OwnLine m'.world
  have hcarried : Leads o (Passage.carryOut setup inclusion parent).run m.session
      (m.starting inclusion parent).world Q := by
    rw [Passage.carryOut, hincludes.kind]
    dsimp only
    rw [leads_run_bind, Passage.act, leads_run_mk]
    refine hscript.mono fun r s' v hr => ?_
    rcases r with mishap | events
    · exact fun hun => by cases (hr hun).1
    · refine leads_run_pure _ |>.2 fun hun => ?_
      obtain ⟨heq, hsame⟩ := hr hun
      cases heq
      exact ⟨rfl, hsame⟩
  have hopened : Leads o (Passage.openEvent setup inclusion parent).run m.session
      (m.starting inclusion parent).world Q := by
    rw [Passage.openEvent, leads_run_bind, leads_run_lift]
    refine hcarried.mono fun r s' v hr => ?_
    dsimp only
    rw [leads_run_bind, leads_passage_tell]
    refine leads_run_mk _ |>.2 (leads_pure _ |>.2 fun hun => ?_)
    obtain ⟨hok, hsession, habreast⟩ := hr (hun.before (World.later_tell _ _))
    exact ⟨hok, hsession, habreast.tell_left fun _ heq => by cases heq⟩
  obtain ⟨hok, hsession, habreast⟩ := hopen.of_leads hopened hun
  exact ⟨hok, h.left hsession habreast⟩

/-- Where nothing is to be restored, nothing happens. -/
theorem Moment.Abreast.settles_left {own : Report → Prop} (h : m.Abreast own m')
    {opened : Opened} (hrestore : opened.restore = .nothing) {r : Except Error Unit}
    (hsettle : Comes o (Journey.settle setup event (.ok opened)).run m r m₁) :
    r = .ok () ∧ m₁.Abreast own m' := by
  have hnothing : Leads o (Journey.settle setup event (.ok opened)).run m.session m.world
      fun r s' w' => r = .ok () ∧ s' = m.session ∧ w' = m.world := by
    refine Journey.leads_settle ?_
    rw [hrestore]
    exact leads_run_pure () |>.2 ⟨rfl, rfl, rfl⟩
  obtain ⟨hok, hsession, hworld⟩ := hsettle.of_leads hnothing
  exact ⟨hok, h.left hsession (by rw [hworld]; exact h.world)⟩

/-- An event may finish in one of two runs that are abreast. -/
theorem Moment.Abreast.finishes_left (h : m.Abreast event.OwnLine m') {element : Option Element}
    {r : Except Error Unit} (hfinish : Comes o (Journey.finish setup event element).run m r m₁) :
    r = .ok () ∧ m₁.Abreast event.OwnLine m' := by
  have hfinished : Leads o (Journey.finish setup event element).run m.session m.world
      fun r s' w' => r = .ok () ∧ s' = m.session ∧ w'.Abreast event.OwnLine m'.world := by
    have htold : (m.world.pulse.tell (.stage (.finished event element))).Abreast event.OwnLine
        m'.world := h.world.pulse_left.tell_left fun _ heq => by cases heq; exact .finished
    have hnone : m.session.registry.isEmpty = true := by rw [h.registry]; rfl
    simp only [Journey.finish, leads_run_bind, leads_journey_pulse, leads_journey_tell,
      leads_run_lift, leads_fire, Session.leads_fire]
    split
    · exact ⟨trivial, trivial, htold⟩
    · rw [Session.dispatch, if_pos hnone]
      exact World.leads_pure _ |>.2 ⟨trivial, trivial, htold.tell_left fun _ heq => by cases heq⟩
  obtain ⟨hok, hsession, habreast⟩ := hfinish.of_leads hfinished
  exact ⟨hok, h.left hsession habreast⟩

/-- The end of the traversal may go out through an event in one of two runs that are abreast. -/
theorem Moment.Abreast.reports_left {own : Report → Prop} (h : m.Abreast own m') {e : Error}
    {r : Except Error Unit}
    (hreport : Comes o (Journey.report event (.halted e)).run m r m₁) :
    r = .error e ∧ m₁.Abreast own m' := by
  have hends := hreport.of_leads (Journey.leads_report event (.halted e))
  have hhalted {s : Session} {w : World σ}
      (hends : Journey.Reports event m.session m.world (.halted e) r s w) : r = .error e ∧
        s = m.session ∧ w = m.world.tell (.stage (.failed event (.halted e))) := by
    cases hends
    exact ⟨rfl, rfl, rfl⟩
  obtain ⟨hr, hsession, hworld⟩ := hhalted hends
  exact ⟨hr, h.left hsession (by
    rw [hworld]
    exact h.world.tell_left fun _ heq => by cases heq)⟩

end Alone

end PageScript
