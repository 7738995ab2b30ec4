import PageScript.Proofs.BrowserLoss
import PageScript.Proofs.Stays
import PageScript.Proofs.TraversalInvariants
import PageScript.Proofs.PassingParts

/-!
# Runs as tours

Every run that comes to an end, be it stopped or lost or neither, goes through its events on a tour,
and its history tells of the stays of this tour and of no others. Each part of a traversal is shown to
take one of the ways that the rules of a tour allow, by induction on the rows, on the events and on
how deeply scripts include each other. A row leaves the scopes of variables as many as there were, so
its scope can always be left.
-/

namespace PageScript

open Stretch

variable {σ : Type} {o : Outside σ} {setup : Setup} {s : Session} {w : World σ} {event : Event}
  {parent : Option Element} {follow : List Event → Option Element → Journey Unit}
  {inside children : Journey Unit} {below : Option Element → Journey Unit}

/-- Of the world nothing need be kept. -/
theorem sustained_trivial (setup : Setup) (o : Outside σ) : Sustained setup o fun _ => True where
  say _ _ := trivial
  step _ _ _ _ _ := trivial
  occasion _ _ _ := trivial
  plugin _ _ _ _ _ _ _ := trivial
  starts _ _ _ _ _ _ _ := trivial
  fails _ _ _ := trivial
  finishes _ _ _ := trivial
  rows _ _ _ := trivial

namespace Journey

/-- Part of a traversal leaves the scopes of variables as many as they were. -/
def Steady (o : Outside σ) (j : Journey Unit) : Prop :=
  ∀ s w, Leads o j.run s w fun _ s' _ => s.Steady s'

/-- Part of a traversal goes on a tour. -/
def Tours (setup : Setup) (o : Outside σ) (j : Journey Unit) (leg : Leg) : Prop :=
  ∀ s w, Leads o j.run s w fun r s' w' => ∃ stays, Tour setup o leg ⟨s, w⟩ stays r ⟨s', w'⟩

theorem Unwinds.steady {j : Journey Unit} (h : j.Unwinds o (fun _ => True) fun _ _ => True) :
    j.Steady o := fun s w =>
  Leads.mono (h s w trivial) fun r s' w' hr => by cases r <;> exact hr.1

theorem mapError_error {ε ε' α : Type} (f : ε → ε') (e : ε) :
    (.error e : Except ε α).mapError f = .error (f e) :=
  rfl

/-! ## Rows and included scripts -/

theorem tours_forRows {events : List Event}
    (hchildren : children.Tours setup o (.siblings events parent)) (hsteady : children.Steady o)
    (rows : List Row) : Leads o (Detour.forRows children rows).run s w fun r s' w' =>
      ∃ stays r', r = r'.mapError .halted ∧
        Tour setup o (.rows events parent rows) ⟨s, w⟩ stays r' ⟨s', w'⟩ := by
  induction rows generalizing s w with
  | nil => exact leads_run_pure () |>.2 ⟨[], .ok (), rfl, .noRow events parent _⟩
  | cons cells rows ih =>
    rw [Detour.forRows, leads_run_bind, leads_detour_ofWorker, World.leads_isStopped]
    dsimp only
    split
    · rename_i hstop
      exact leads_run_pure () |>.2 ⟨[], .ok (), rfl, .stoppedRow hstop⟩
    rename_i hstop
    simp only [Detour.enterRow, leads_run_bind, leads_detour_ofWorker, World.leads_tell,
      leads_run_modify, leads_within]
    have hentered := s.steady_enterRow cells
    refine ((hchildren _ _).and (hsteady _ _)).mono ?_
    rintro result s₁ w₁ ⟨⟨here, hhere⟩, hsteady₁⟩
    obtain ⟨vars, hpop, -⟩ := Vars.SameShape.pop (hentered.trans hsteady₁)
    let m : Moment σ := ⟨s, w⟩
    let m₁ : Moment σ := ⟨s₁, w₁⟩
    have hstopped : m.world.isStopped = false := Bool.eq_false_iff.2 hstop
    have hhere : Tour setup o (.siblings events parent) (m.entering cells) here result m₁ := hhere
    have hleft : m₁.session.vars.pop = .ok vars := hpop
    simp only [Detour.leaveRow, leads_run_bind, leads_run_get, hpop, leads_run_modify]
    cases result with
    | error e => exact leads_run_throw _ |>.2 ⟨here, .error e, rfl, .endedRow hstopped hhere hleft⟩
    | ok _ =>
      refine leads_run_pure () |>.2 (ih.mono ?_)
      rintro _ s₂ w₂ ⟨later, r', rfl, hlater⟩
      exact ⟨here ++ later, r', rfl, .nextRow hstopped hhere hleft hlater⟩

theorem tours_followInner {events : List Event}
    (hfollow : ∀ events parent, (follow events parent).Tours setup o (.siblings events parent))
    (hinside : inside.Tours setup o (.siblings events parent)) (hsteady : inside.Steady o)
    (inner : Inner) : Leads o (Detour.followInner follow inside parent inner).run s w fun r s' w' =>
      ∃ stays r', r = r'.mapError .halted ∧
        Tour setup o (inner.leg events parent) ⟨s, w⟩ stays r' ⟨s', w'⟩ := by
  cases inner with
  | nothing => exact leads_run_pure () |>.2 ⟨[], .ok (), rfl, .none parent _⟩
  | rows rows => exact tours_forRows hinside hsteady rows
  | events included =>
    rw [Detour.followInner, leads_run_bind, leads_within]
    refine (hfollow included parent s w).mono ?_
    rintro r s' w' ⟨stays, htour⟩
    cases r with
    | ok _ => exact leads_run_pure () |>.2 ⟨stays, .ok (), rfl, htour⟩
    | error e => exact leads_run_throw _ |>.2 ⟨stays, .error e, rfl, htour⟩

/-! ## One event -/

/-- What it comes to that the failure of an event is reported: it is told of and remarked upon, and
only the loss of the browser goes on from there. -/
inductive Reports (event : Event) (s : Session) (w : World σ) :
    Failure → Except Error Unit → Session → World σ → Prop where
  | own (mishap : Mishap) (r : Remark) : Reports event s w (.own mishap) (.ok ()) s
      ((w.tell (.stage (.failed event (.own mishap)))).say r)
  | lost (e : Error) (r : Remark) : Reports event s w (.lost e) (.error e) s
      ((w.tell (.stage (.failed event (.lost e)))).say r)
  | halted (e : Error) : Reports event s w (.halted e) (.error e) s
      (w.tell (.stage (.failed event (.halted e))))

theorem leads_report (event : Event) (failure : Failure) :
    Leads o (report event failure).run s w (Reports event s w failure) := by
  unfold report
  rw [leads_run_bind, leads_journey_tell]
  cases failure with
  | halted e => exact leads_run_throw e |>.2 (.halted e)
  | own m =>
    cases m with
    | abort => exact leads_journey_say _ |>.2 (.own _ _)
    | hidden => dsimp only; split <;> exact leads_journey_say _ |>.2 (.own _ _)
    | fault e => exact leads_journey_say _ |>.2 (.own _ _)
    | lost e =>
      dsimp only
      rw [leads_run_bind, leads_journey_say]
      exact leads_run_throw e |>.2 (.lost e _)

/-- An event that has not failed is settled by what restores the context, or this fails and is reported
for the event. -/
theorem leads_settle {opened : Opened} {Q : Except Error Unit → Session → World σ → Prop}
    (h : Leads o (Passage.restore setup opened.restore).run s w fun r s₁ w₁ =>
      match r with
      | .ok _ => Q (.ok ()) s₁ w₁
      | .error mishap => Leads o (report event (.own mishap)).run s₁ w₁ Q) :
    Leads o (settle setup event (.ok opened)).run s w Q := by
  rw [settle, leave, leads_run_bind, leads_attempt]
  refine h.mono fun r s₁ w₁ h => ?_
  cases r with
  | ok _ => exact leads_run_pure () |>.2 h
  | error _ => exact h

/-- Where all that belongs to an event is done, what is left is to settle and to finish it. -/
theorem tours_settled {result : Except Mishap Opened} {m carried : Moment σ}
    {within : List (Stay σ)}
    (hopen : Comes o (Passage.openEvent setup event parent).run (m.starting event parent) result
      carried)
    (hwithin : Tour setup o (.within event parent result) carried within (.ok ()) ⟨s, w⟩) :
    Leads o (settle setup event result).run s w fun r s' w' =>
      match r with
      | .ok _ => Leads o (finish setup event (Visit.mk event parent result).element).run s' w'
          fun r s'' w'' => ∃ stays, Tour setup o (.single event parent) m stays r ⟨s'', w''⟩
      | .error e => ∃ stays, Tour setup o (.single event parent) m stays (.error e) ⟨s', w'⟩ := by
  refine (leads_comes _).mono fun r s' w' hsettle => ?_
  cases r with
  | error e => exact ⟨_, .lost hopen hwithin hsettle⟩
  | ok _ =>
    -- an event that is finished goes on in any case
    have hgoes : Leads o (finish setup event (Visit.mk event parent result).element).run s' w'
        fun r _ _ => r = .ok () := by
      simp only [finish, leads_run_bind, leads_journey_pulse, leads_journey_tell, leads_run_lift]
      exact (leads_trivial _).mono fun _ _ _ _ => trivial
    refine ((leads_comes _).and hgoes).mono ?_
    rintro _ s'' w'' ⟨hfinish, rfl⟩
    exact ⟨_, .finished hopen hwithin hsettle hfinish⟩

/-- Where an event has been carried out and what comes before its children is done, these are run and
the event is left. -/
theorem tours_descend {opened : Opened} {m carried : Moment σ} {inner : List (Stay σ)}
    (hopen : Comes o (Passage.openEvent setup event parent).run (m.starting event parent)
      (.ok opened) carried)
    (hinner : Tour setup o (opened.inner.leg event.children parent) carried inner (.ok ()) ⟨s, w⟩)
    (hbelow : ∀ element, (below element).Tours setup o (.siblings event.children element)) :
    Leads o (descend setup below event (.ok opened)).run s w fun r s' w' =>
      match r with
      | .ok element => Leads o (finish setup event element).run s' w' fun r s'' w'' =>
          ∃ stays, Tour setup o (.single event parent) m stays r ⟨s'', w''⟩
      | .error e => ∃ stays, Tour setup o (.single event parent) m stays (.error e) ⟨s', w'⟩ := by
  -- whether or not there were children to be visited, what is left is the same
  have hleave {s' : Session} {w' : World σ} {below : List (Stay σ)}
      (h : Tour setup o (.siblings event.lastChildren opened.element) ⟨s, w⟩ below (.ok ())
        ⟨s', w'⟩) :
      Leads o (leave setup event opened.restore).run s' w' fun r s' w' =>
        match r with
        | .ok _ => Leads o (finish setup event opened.element).run s' w' fun r s'' w'' =>
            ∃ stays, Tour setup o (.single event parent) m stays r ⟨s'', w''⟩
        | .error e => ∃ stays, Tour setup o (.single event parent) m stays (.error e) ⟨s', w'⟩ :=
    tours_settled hopen (.opened hinner h)
  rw [descend]
  split
  · rename_i hdescends
    have hchildren : event.lastChildren = event.children := if_pos hdescends
    rw [leads_run_bind]
    refine (hbelow opened.element s w).mono ?_
    rintro r s₁ w₁ ⟨below, htour⟩
    rw [← hchildren] at htour
    cases r with
    | error e => exact ⟨_, .unwound hopen (.opened hinner htour)⟩
    | ok _ =>
      simp only [leads_run_bind]
      refine (hleave htour).mono fun r s₂ w₂ h => ?_
      cases r with
      | error e => exact h
      | ok _ => exact leads_run_pure _ |>.2 h
  · rename_i hdescends
    -- the event has no children, or it has dealt with them itself
    have hnone : event.lastChildren = [] := if_neg hdescends
    have hnothing : Tour setup o (.siblings event.lastChildren opened.element) ⟨s, w⟩ [] (.ok ())
        ⟨s, w⟩ := by
      rw [hnone]
      exact .none _ _
    simp only [leads_run_bind]
    refine (hleave hnothing).mono fun r s₁ w₁ h => ?_
    cases r with
    | error e => exact h
    | ok _ => exact leads_run_pure _ |>.2 h

theorem tours_runEvent
    (hfollow : ∀ events parent, (follow events parent).Tours setup o (.siblings events parent))
    (hinside : inside.Tours setup o (.siblings event.children parent)) (hsteady : inside.Steady o)
    (hbelow : ∀ element, (below element).Tours setup o (.siblings event.children element)) :
    (runEvent setup follow inside below event parent).Tours setup o (.single event parent) := by
  intro s w
  simp only [runEvent, leads_run_bind, leads_journey_tell, leads_journey_pulse, leads_attempt,
    Detour.opening, leads_detour_ofPassage, leads_run_pure]
  let m : Moment σ := ⟨s, w⟩
  refine (leads_comes _).mono fun result s₁ w₁ hopen => ?_
  have hopen : Comes o (Passage.openEvent setup event parent).run (m.starting event parent) result
      ⟨s₁, w₁⟩ := hopen
  cases result with
  | error mishap =>
    simp only [mapError_error, descend, leads_run_bind]
    refine (tours_settled hopen (.failed event parent mishap _)).mono fun r s₂ w₂ h => ?_
    cases r with
    | error e => exact h
    | ok _ => exact leads_run_pure _ |>.2 h
  | ok opened =>
    refine (tours_followInner hfollow hinside hsteady opened.inner).mono ?_
    rintro _ s₂ w₂ ⟨inner, r, rfl, hinner⟩
    cases r with
    | ok _ =>
      refine Leads.mono (tours_descend hopen hinner hbelow) fun r s₃ w₃ h => ?_
      cases r <;> exact h
    | error e =>
      simp only [mapError_error, descend, leads_run_bind]
      refine ((leads_comes _).and (leads_report event (.halted e))).mono ?_
      rintro r s₃ w₃ ⟨hreport, hends⟩
      cases hends
      exact ⟨_, .unwound hopen (.halted hinner hreport)⟩

/-! ## Lists of events -/

mutual

theorem tours_visitOne
    (hfollow : ∀ events parent, (follow events parent).Tours setup o (.siblings events parent))
    (hsteady : ∀ events parent, (follow events parent).Unwinds o (fun _ => True) fun _ _ => True)
    (event : Event) (parent : Option Element) :
    (visitOne setup follow event parent).Tours setup o (.single event parent) :=
  match event with
  | ⟨_, _, _, _, _, _, children⟩ => by
    rw [visitOne]
    have hunwinds := (sustained_trivial setup o).unwinds.visitAll (fun _ => hsteady) [] children parent
    exact tours_runEvent hfollow (tours_visitAll hfollow hsteady children parent) hunwinds.steady
      (tours_visitAll hfollow hsteady children)

theorem tours_visitAll
    (hfollow : ∀ events parent, (follow events parent).Tours setup o (.siblings events parent))
    (hsteady : ∀ events parent, (follow events parent).Unwinds o (fun _ => True) fun _ _ => True)
    (events : List Event) (parent : Option Element) :
    (visitAll setup follow events parent).Tours setup o (.siblings events parent) :=
  match events with
  | [] => fun s w => by
    rw [visitAll]
    exact leads_run_pure () |>.2 ⟨[], .none parent _⟩
  | event :: events => fun s w => by
    rw [visitAll, leads_run_bind, leads_journey_ofWorker, World.leads_isStopped]
    dsimp only
    split
    · rename_i hstop
      exact leads_journey_say _ |>.2 ⟨[], .stopped hstop⟩
    rename_i hstop
    have hgoes : (⟨s, w⟩ : Moment σ).world.isStopped = false := Bool.eq_false_iff.2 hstop
    rw [leads_run_bind]
    refine (tours_visitOne hfollow hsteady event parent s w).mono ?_
    rintro r s₁ w₁ ⟨here, hhere⟩
    cases r with
    | error e => exact ⟨here, .ended hgoes hhere⟩
    | ok _ =>
      refine (tours_visitAll hfollow hsteady events parent s₁ w₁).mono ?_
      rintro r s₂ w₂ ⟨later, hlater⟩
      exact ⟨here ++ later, .next hgoes hhere hlater⟩

end

theorem tours_visit (depth : Nat) (events : List Event) (parent : Option Element) :
    (visit setup depth events parent).Tours setup o (.siblings events parent) := by
  induction depth generalizing events parent with
  | zero => exact fun s w => leads_journey_ofWorker _ |>.2 World.leads_giveUp
  | succ depth ih =>
    have hunwinds := (sustained_trivial setup o).unwinds.visit depth []
    exact tours_visitAll ih hunwinds events parent

/-! ## What is added on the way -/

/-- Something by which a failure is reported. -/
inductive Telling : Happening → Prop where
  | failed (event : Event) (failure : Failure) : Telling (.stage (.failed event failure))
  | remark (r : Remark) : Telling (.notice r.notice)

/-- Something that may happen while an event is settled: its failure is reported, or it is an aside. -/
inductive Settling : Happening → Prop where
  | aside {h : Happening} : h.Aside → Settling h
  | telling {h : Happening} : Telling h → Settling h

theorem adds_report (event : Event) (failure : Failure) :
    Leads o (report event failure).run s w fun _ _ w' => w.Adds Telling w' := by
  have hfailed : w.Adds Telling (w.tell (.stage (.failed event failure))) :=
    .of_cons (.failed event failure) rfl
  refine (leads_report event failure).mono fun _ _ _ h => ?_
  cases h with
  | own mishap r => exact hfailed.trans (.of_cons (.remark r) rfl)
  | lost e r => exact hfailed.trans (.of_cons (.remark r) rfl)
  | halted e => exact hfailed

theorem adds_restore (r : Restore) : Leads o (Passage.restore setup r).run s w
    fun _ _ w' => w.Adds Happening.Aside w' :=
  (World.kept_adds o w).restore r (.refl _ w)

theorem adds_settle (event : Event) (result : Except Mishap Opened) :
    Leads o (settle setup event result).run s w fun _ _ w' => w.Adds Settling w' := by
  cases result with
  | error mishap => exact (adds_report event _).mono fun _ _ _ h => h.mono fun _ => .telling
  | ok opened =>
    refine leads_settle ((adds_restore opened.restore).mono fun result s₁ w₁ hadds => ?_)
    replace hadds : w.Adds Settling w₁ := hadds.mono fun _ => .aside
    cases result with
    | ok _ => exact hadds
    | error mishap =>
      exact (adds_report event _).mono fun _ _ _ h => hadds.trans (h.mono fun _ => .telling)

/-- An event that finishes tells so, and what follows are asides. -/
theorem adds_finish (event : Event) (element : Option Element) :
    Leads o (finish setup event element).run s w fun _ s' w' => s' = s ∧
      (w.pulse.tell (.stage (.finished event element))).Adds Happening.Aside w' := by
  simp only [finish, leads_run_bind, leads_journey_pulse, leads_journey_tell, leads_run_lift,
    leads_fire]
  exact ((World.kept_adds o _).fire (by simp) (.refl _ _)).mono fun _ _ hadds => ⟨trivial, hadds⟩

theorem idle_telling {h : Happening} (htelling : Telling h) : h.Idle := by
  cases htelling with
  | failed event failure => trivial
  | remark r => exact idle_passing (passing_remark r)

theorem idle_settling {h : Happening} (hsettling : Settling h) : h.Idle :=
  match hsettling with
  | .aside haside => idle_aside haside
  | .telling htelling => idle_telling htelling

/-- On a tour the visits of its stays are made, in the order in which they begin. -/
theorem spans_visits (setup : Setup) (o : Outside σ) :
    Tour.Spans setup o fun m stays _ m' =>
      World.Visits ((Stay.allOf stays).map Stay.visit) m.world m'.world where
  refl m := .refl m.world
  trans hhere hlater _ _ := by
    rw [Stay.allOf_append, List.map_append]
    exact hhere.trans hlater
  skips _ := .of_eq rfl rfl
  row _ _ h := ⟨h.starts_eq, h.results_eq⟩
  halts h hreport := h.adds (hreport.of_leads (adds_report _ _)) fun _ => idle_telling
  finishes {m event parent result carried within done left after} hopen _ h hsettle hfinish := by
    have hopened := (hopen.of_leads (visits_openEvent event parent)).2.1
    have hsettled := hsettle.of_leads (adds_settle event result)
    have hleft := (hopened.trans h).adds hsettled fun _ => idle_settling
    have htold : World.Visits [] left.world (left.world.pulse.tell
        (.stage (.finished event (Visit.mk event parent result).element))) := .of_eq rfl rfl
    have hfinished := (hfinish.of_leads (adds_finish event _)).2
    simpa using (hleft.trans htold).adds hfinished fun _ => idle_aside
  loses {m event parent result carried within done e m'} hopen _ h hsettle := by
    have hopened := (hopen.of_leads (visits_openEvent event parent)).2.1
    have hsettled := hsettle.of_leads (adds_settle event result)
    simpa using (hopened.trans h).adds hsettled fun _ => idle_settling
  unwinds {m event parent result carried within e m'} hopen _ h := by
    have hopened := (hopen.of_leads (visits_openEvent event parent)).2.1
    simpa using hopened.trans h

end Journey

/-- The tour of a run that has come to an end: after the plugins before the test it goes through the
events, up to the end of them, and the history of the run tells of its stays and of no others. -/
structure Toured {setup : Setup} {o : Outside σ} {calendar : Calendar}
    {stopAt : Option Duration} {events : List Event} {outside : σ} {ended : Ended σ}
    (course : Course setup o calendar stopAt events outside ended) (stays : List (Stay σ)) :
    Prop where
  tour : ∃ begun : Moment σ,
    Comes o (Journey.noteWindow >>= fun _ => Stretch.fire setup { phase := .beforeTest })
      ⟨setup.session calendar, World.opened setup calendar stopAt events outside⟩ () begun ∧
    Tour setup o (.siblings events none) begun stays course.result ⟨course.session, course.before⟩
  starts_eq : starts ended.world.history = (Stay.allOf stays).map fun stay => stay.visit.start
  results_eq : results ended.world.history = (Stay.allOf stays).map fun stay => stay.visit.outcome

/-- **Every run goes on a tour**, whatever it comes to. -/
theorem Course.toured {calendar : Calendar} {stopAt : Option Duration} {events : List Event}
    {outside : σ} {ended : Ended σ}
    (course : Course setup o calendar stopAt events outside ended) :
    ∃ stays, Toured course stays := by
  have hmain : Leads o (Journey.main setup events) (setup.session calendar)
      (World.opened setup calendar stopAt events outside) fun r s' w' =>
        ∃ stays, ∃ begun : Moment σ,
          Comes o (Journey.noteWindow >>= fun _ => Stretch.fire setup { phase := .beforeTest })
            ⟨setup.session calendar, World.opened setup calendar stopAt events outside⟩ () begun ∧
          Tour setup o (.siblings events none) begun stays r ⟨s', w'⟩ := by
    rw [Journey.main, ← bind_assoc, leads_bind]
    refine (leads_comes _).mono fun _ s₁ w₁ hbegun => ?_
    refine (Journey.tours_visit setup.nesting events none s₁ w₁).mono ?_
    rintro r s₂ w₂ ⟨stays, htour⟩
    exact ⟨stays, ⟨s₁, w₁⟩, hbegun, htour⟩
  obtain ⟨stays, begun, hbegun, htour⟩ := hmain _ _ course.run_main
  have hopened := (adds_opened setup calendar stopAt events outside).visits fun _ => idle_passing
  have hbefore := hopened.adds (hbegun.of_leads Journey.adds_begin) fun _ => idle_aside
  have hafter := (hbefore.trans (htour.spans (Journey.spans_visits setup o))).adds
    course.adds_plugins fun _ => idle_closing
  have hended := hafter.adds course.adds_end fun _ => idle_passing
  exact ⟨stays, ⟨begun, hbegun, htour⟩, hended.starts_eq.trans List.map_map,
    hended.results_eq.trans List.map_map⟩

end PageScript
