import PageScript.Proofs.RunResults
import PageScript.Proofs.IncludeDepth

/-!
# Runs that come to an end with one another

A run of events comes to an end only if scripts do not include each other too deeply. If it does, then
so does the run of what comes of the events if the events of a script are put in the place of an event
that includes it: scripts that these include are then followed one level less deeply. It is shown for
each rule of the tour of the first run from the same for its parts. As long as the second run has not
been stopped it is abreast of the first one, and once it has been stopped it comes to an end anyway.
-/

namespace PageScript

open Stretch

variable {σ β : Type} {o : Outside σ} {setup : Setup} {inclusion : Event} {included : List Event}
  {event : Event} {events children : List Event} {parent : Option Element} {cells : Row}
  {rows : List Row} {m m' m₁ m₂ : Moment σ} {here : List (Stay σ)} {r : Except Error Unit}
  {depth : Nat} {R : Session → Prop} {leg leg' : Leg}

/-! ## Parts of a traversal -/

/-- A part of a traversal comes to an end if scripts are followed this deeply, and what is remembered
is then as said. -/
def Leg.Ends (setup : Setup) (o : Outside σ) (depth : Nat) (R : Session → Prop) (m : Moment σ) :
    Leg → Prop
  | .single event parent =>
    Lands o (Journey.visitOne setup (Journey.visit setup depth) event parent).run m.session
      m.world fun _ s _ => R s
  | .siblings events parent =>
    Lands o (Journey.visitAll setup (Journey.visit setup depth) events parent).run m.session
      m.world fun _ s _ => R s
  | .rows children parent rest =>
    Lands o (Detour.forRows
      (Journey.visitAll setup (Journey.visit setup depth) children parent) rest).run m.session
      m.world fun _ s _ => R s
  | .within event parent (.ok opened) =>
    Lands o (Detour.followInner (Journey.visit setup depth)
      (Journey.visitAll setup (Journey.visit setup depth) event.children parent) parent
      opened.inner).run m.session m.world fun r s w => R s ∧ (r = .ok () →
        Lands o (Journey.visitAll setup (Journey.visit setup depth) event.lastChildren
          opened.element).run s w fun _ s' _ => R s')
  | .within _ _ (.error _) => R m.session

theorem Journey.visitOne_eq (follow : List Event → Option Element → Journey Unit) (event : Event)
    (parent : Option Element) : visitOne setup follow event parent =
      runEvent setup follow (visitAll setup follow event.children parent)
        (visitAll setup follow event.children) event parent := by
  cases event
  rw [visitOne]

namespace Leg

/-- An event that comes to an end has been carried out, and so has all that belongs to it. -/
theorem Ends.within (h : (Leg.single event parent).Ends setup o depth (fun _ => True) m) :
    Lands o (Passage.openEvent setup event parent).run (m.starting event parent).session
      (m.starting event parent).world fun result s w =>
        (Leg.within event parent result).Ends setup o depth (fun _ => True) ⟨s, w⟩ := by
  dsimp only [Ends] at h
  rw [Journey.visitOne_eq, Journey.lands_runEvent] at h
  refine h.mono fun result s w hr => ?_
  cases result with
  | error mishap => exact trivial
  | ok opened =>
    refine (hr.2 opened rfl).mono fun r s w hr => ⟨trivial, fun hok => ?_⟩
    have hclosing := lands_run_bind _ _ |>.1 (hr.1 hok)
    rw [Journey.descend] at hclosing
    rw [Event.lastChildren]
    split at hclosing
    · rename_i hdescends
      rw [if_pos hdescends]
      exact (lands_run_bind _ _ |>.1 hclosing).mono fun _ _ _ _ => trivial
    · rename_i hdescends
      rw [if_neg hdescends, Journey.visitAll]
      exact lands_run_pure _ |>.2 trivial

/-- An event comes to an end if all that belongs to it does. -/
theorem lands_single (hplugins : setup.plugins = [])
    (h : Lands o (Passage.openEvent setup event parent).run (m.starting event parent).session
      (m.starting event parent).world fun result s w =>
        (Leg.within event parent result).Ends setup o depth (·.registry = []) ⟨s, w⟩) :
    (Leg.single event parent).Ends setup o depth (·.registry = []) m := by
  dsimp only [Ends]
  rw [Journey.visitOne_eq, Journey.lands_runEvent]
  refine h.mono fun result s w hr => ⟨?_, ?_⟩
  · rintro mishap rfl
    exact Journey.lands_closing hplugins hr nofun
  · rintro opened rfl
    refine Lands.mono hr fun r s w hr => ⟨fun hok => ?_, fun failure _ => ?_⟩
    · refine Journey.lands_closing hplugins hr.1 fun opened' heq hdescends => ?_
      cases heq
      have hlast := hr.2 hok
      rw [Event.lastChildren, if_pos hdescends] at hlast
      exact hlast
    · exact Journey.lands_closing hplugins hr.1 nofun

/-- Once the run is stopped, all that belongs to an event comes to an end, unless it is a script. -/
theorem within_of_stopped {result : Except Mishap Opened} (hregistry : m.session.registry = [])
    (hstop : m.world.isStopped = true)
    (hnone : ∀ opened, result = .ok opened → ∀ included, opened.inner ≠ .events included) :
    (Leg.within event parent result).Ends setup o depth (·.registry = []) m := by
  have hbelow {s : Session} (hs : s.registry = []) (element : Option Element) :
      Lands o (Journey.visitAll setup (Journey.visit setup depth) event.lastChildren element).run s
        m.world fun _ s' _ => s'.registry = [] :=
    (Journey.lands_visitAll_of_stopped hstop).mono fun _ _ _ h => h ▸ hs
  cases result with
  | error mishap => exact hregistry
  | ok opened =>
    dsimp only [Ends]
    cases hinner : opened.inner with
    | nothing => exact lands_run_pure () |>.2 ⟨hregistry, fun _ => hbelow hregistry _⟩
    | rows rows =>
      refine (Detour.lands_forRows_of_stopped hstop).mono ?_
      rintro _ s w ⟨rfl, rfl⟩
      exact ⟨hregistry, fun _ => hbelow hregistry _⟩
    | events included => exact absurd hinner (hnone opened rfl included)

/-- Siblings that come to an end do so also if scripts are followed more deeply. -/
theorem Ends.succ (h : (Leg.siblings events parent).Ends setup o depth R m) :
    (Leg.siblings events parent).Ends setup o (depth + 1) R m := by
  obtain ⟨r, s, w, hrun, hs⟩ := h
  exact ⟨r, s, w, Journey.coveredBy_visitAll (Journey.follows_visit_succ depth) events parent
    m.session m.world _ hrun, hs⟩

end Leg

namespace Journey

theorem steady_visitAll (depth : Nat) (events : List Event) (parent : Option Element) :
    (visitAll setup (visit setup depth) events parent).Steady o :=
  ((sustained_trivial setup o).unwinds.visit (depth + 1) [] events parent).steady

theorem tours_single (depth : Nat) (event : Event) (parent : Option Element) :
    (visitOne setup (visit setup depth) event parent).Tours setup o (.single event parent) := by
  have hunwinds := (sustained_trivial setup o).unwinds.visit depth []
  exact tours_visitOne (tours_visit depth) hunwinds event parent

theorem tours_inner (depth : Nat) (events : List Event) (parent : Option Element) (inner : Inner)
    (m : Moment σ) : Leads o (Detour.followInner (visit setup depth)
      (visitAll setup (visit setup depth) events parent) parent inner).run m.session m.world
        fun b s w => ∃ stays r, b = r.mapError .halted ∧
          Tour setup o (inner.leg events parent) m stays r ⟨s, w⟩ :=
  tours_followInner (tours_visit depth) (tours_visit (depth + 1) events parent)
    (steady_visitAll depth events parent) inner

theorem Tours.comes {j : Journey Unit} (h : j.Tours setup o leg) (m : Moment σ) :
    Leads o j.run m.session m.world fun b s w =>
      ∃ stays r, b = r ∧ Tour setup o leg m stays r ⟨s, w⟩ :=
  Leads.mono (h m.session m.world) fun r _ _ ⟨stays, htour⟩ => ⟨stays, r, rfl, htour⟩

/-- The events of a script are followed. -/
theorem lands_followInner {follow : List Event → Option Element → Journey Unit}
    {inside : Journey Unit} {s : Session} {w : World σ} :
    Lands o (Detour.followInner follow inside parent (.events events)).run s w (fun _ s' _ => R s') ↔
      Lands o (follow events parent).run s w fun _ s' _ => R s' := by
  rw [Detour.followInner, lands_run_bind, lands_within]
  refine iff_of_eq (congrArg _ ?_)
  funext r s' w'
  cases r with
  | ok _ => exact propext (lands_run_pure ())
  | error e => exact propext (lands_run_throw _)

end Journey

/-! ## Two runs side by side -/

/-- What a part of a run leads to that comes to an end is known from its tour. -/
theorem Tour.of_lands {p : Stretch β} {f : Except Error Unit → β}
    {Q : β → Session → World σ → Prop} (htour : Tour setup o leg m here r m₁)
    (htours : Leads o p m.session m.world fun b s w =>
      ∃ stays r, b = f r ∧ Tour setup o leg m stays r ⟨s, w⟩)
    (h : Lands o p m.session m.world Q) : Q (f r) m₁.session m₁.world := by
  obtain ⟨b, s, w, hrun, hb⟩ := h
  obtain ⟨stays, r', rfl, htour'⟩ := htours _ _ hrun
  obtain ⟨-, rfl, rfl⟩ := htour.unique htour'
  exact hb

/-- A run has come to a point which is abreast of one of another run, with the same result, or it has
been stopped. -/
structure Moment.Meets (own : Report → Prop) (r : Except Error Unit) (m : Moment σ)
    (r' : Except Error Unit) (m' : Moment σ) : Prop where
  registry : m'.session.registry = []
  abreast : m'.world.isStopped = true ∨ r' = r ∧ m.Abreast own m'
  coherent : m'.world.Coherent

theorem Moment.Abreast.registry_right {own : Report → Prop} (h : m.Abreast own m') :
    m'.session.registry = [] :=
  (congrArg Session.registry h.session_eq).trans h.registry

/-- A part of a run that comes to an end meets the part that it follows there. -/
theorem Follows.lands {p : Stretch β} {f : Except Error Unit → β}
    (hfollows : Follows setup o inclusion included leg m here r m₁)
    (hleg : leg.InPlace inclusion included leg') (henters : leg.Enters m)
    (h : m.Abreast inclusion.OwnLine m') (hcoherent : m'.world.Coherent)
    (hun : m₁.world.Untripped)
    (htours : Leads o p m'.session m'.world fun b s w =>
      ∃ stays r, b = f r ∧ Tour setup o leg' m' stays r ⟨s, w⟩)
    (hends : Lands o p m'.session m'.world fun _ s _ => s.registry = []) :
    Lands o p m'.session m'.world fun b s w =>
      ∃ r', b = f r' ∧ m₁.Meets inclusion.OwnLine r r' ⟨s, w⟩ := by
  have hkeeps : Leads o p m'.session m'.world fun _ _ w => w.Coherent := hcoherent.leads _
  refine (hends.and (htours.and hkeeps)).mono ?_
  rintro _ s w ⟨hs, ⟨stays, r', rfl, htour⟩, hw⟩
  refine ⟨r', rfl, hs, ?_, hw⟩
  cases hstop : w.isStopped with
  | true => exact .inl rfl
  | false =>
    have hun' : w.Untripped := fun t hmem => hw.not_stopped hstop ⟨_, t, hmem⟩
    obtain ⟨hr, -, h₁⟩ := hfollows hleg henters h htour hun hun'
    exact .inr ⟨hr, h₁⟩

/-- From every point abreast of the first one, what comes of a part of a traversal comes to an end if
the part does. -/
def Arrives (setup : Setup) (o : Outside σ) (inclusion : Event) (included : List Event) (leg : Leg)
    (m m₁ : Moment σ) : Prop :=
  ∀ ⦃depth leg' m'⦄, leg.InPlace inclusion included leg' → leg.Enters m →
    m.Abreast inclusion.OwnLine m' → m'.world.Coherent → m₁.world.Untripped →
    leg.Ends setup o depth (fun _ => True) m → leg'.Ends setup o depth (·.registry = []) m'

namespace Arrives

/-! ## Siblings -/

theorem none (parent : Option Element) (m : Moment σ) :
    Arrives setup o inclusion included (.siblings [] parent) m m := by
  rintro depth leg' m' (_ | _ | ⟨_, _ | _ | _⟩) - h - - -
  dsimp only [Leg.Ends]
  rw [Journey.visitAll]
  exact lands_run_pure _ |>.2 h.registry_right

theorem stopped (hstop : m.world.isStopped = true) :
    Arrives setup o inclusion included (.siblings (event :: events) parent) m m₁ := by
  intro depth leg' m' hleg _ h _ _ _
  cases hleg with
  | siblings _ _ =>
    exact (Journey.lands_visitAll_of_stopped (h.world.stopped_eq.trans hstop)).mono
      fun _ _ _ hs => hs ▸ h.registry_right

theorem cons (hgoes : m.world.isStopped = false)
    (hhere : Tour setup o (.single event parent) m here r m₁)
    (hlater : m₁.world.Later m₂.world)
    (hfollows : Follows setup o inclusion included (.single event parent) m here r m₁)
    (ihhere : Arrives setup o inclusion included (.single event parent) m m₁)
    (ihlater : r = .ok () → Arrives setup o inclusion included (.siblings events parent) m₁ m₂) :
    Arrives setup o inclusion included (.siblings (event :: events) parent) m m₂ := by
  intro depth leg' m' hleg _ h hcoherent hun hends
  have hun₁ := hun.before hlater
  have hgoes' : m'.world.isStopped = false := h.world.stopped_eq.trans hgoes
  have hsplit := Journey.lands_visitAll_cons hgoes |>.1 hends
  have hfirst : (Leg.single event parent).Ends setup o depth (fun _ => True) m :=
    hsplit.mono fun _ _ _ _ => trivial
  have hlast := (hhere.of_lands ((Journey.tours_single depth event parent).comes m) hsplit).1
  cases hleg with | siblings _ hevents => ?_
  -- what comes after the event in the second run comes to an end wherever it begins
  have hrest {events' : List Event} (hplace : InPlace inclusion included events events')
      {r' : Except Error Unit} {m₁' : Moment σ} (hmeets : m₁.Meets inclusion.OwnLine r r' m₁')
      (hok : r' = .ok ()) :
      (Leg.siblings events' parent).Ends setup o depth (·.registry = []) m₁' := by
    rcases hmeets.abreast with hstop | ⟨rfl, h₁⟩
    · exact (Journey.lands_visitAll_of_stopped hstop).mono fun _ _ _ hs => hs ▸ hmeets.registry
    · exact ihlater hok (.siblings parent hplace) trivial h₁ hmeets.coherent hun (hlast hok)
  cases hevents with
  | @keep _ children _ _ hchildren hevents =>
    have hsingle := Leg.InPlace.single parent hchildren
    refine (Journey.lands_visitAll_cons hgoes').2 ((hfollows.lands hsingle hgoes h hcoherent hun₁
      ((Journey.tours_single depth _ parent).comes m')
      (ihhere hsingle hgoes h hcoherent hun₁ hfirst)).mono ?_)
    rintro _ s w ⟨r', rfl, hmeets⟩
    exact ⟨hrest hevents hmeets, fun _ _ => hmeets.registry⟩
  | put hevents =>
    refine Journey.lands_visitAll_append ((hfollows.lands (.put parent) hgoes h hcoherent hun₁
      ((Journey.tours_visit (depth + 1) included parent).comes m')
      (ihhere (.put parent) hgoes h hcoherent hun₁ hfirst)).mono ?_)
    rintro _ s w ⟨r', rfl, hmeets⟩
    exact ⟨hmeets.registry, hrest hevents hmeets⟩

/-! ## Rows -/

theorem noRow (children : List Event) (parent : Option Element) (m : Moment σ) :
    Arrives setup o inclusion included (.rows children parent []) m m := by
  intro depth leg' m' hleg _ h _ _ _
  cases hleg
  dsimp only [Leg.Ends]
  rw [Detour.forRows]
  exact lands_run_pure () |>.2 h.registry_right

theorem stoppedRow (hstop : m.world.isStopped = true) :
    Arrives setup o inclusion included (.rows children parent (cells :: rows)) m m₁ := by
  intro depth leg' m' hleg _ h _ _ _
  cases hleg
  exact (Detour.lands_forRows_of_stopped (h.world.stopped_eq.trans hstop)).mono
    fun _ _ _ hs => hs.1 ▸ h.registry_right

theorem row {vars : Vars} (hgoes : m.world.isStopped = false)
    (hhere : Tour setup o (.siblings children parent) (m.entering cells) here r m₁)
    (hpop : m₁.session.vars.pop = .ok vars) (hlater : m₁.world.Later m₂.world)
    (hfollows : Follows setup o inclusion included (.siblings children parent) (m.entering cells) here
      r m₁)
    (ihhere : Arrives setup o inclusion included (.siblings children parent) (m.entering cells) m₁)
    (ihlater : r = .ok () →
      Arrives setup o inclusion included (.rows children parent rows) (m₁.withVars vars) m₂) :
    Arrives setup o inclusion included (.rows children parent (cells :: rows)) m m₂ := by
  intro depth leg' m' hleg _ h hcoherent hun hends
  have hun₁ := hun.before hlater
  have hgoes' : m'.world.isStopped = false := h.world.stopped_eq.trans hgoes
  have hsplit := Detour.lands_forRows_cons hgoes |>.1 hends
  have hfirst : (Leg.siblings children parent).Ends setup o depth (fun _ => True)
      (m.entering cells) := Lands.mono hsplit fun _ _ _ _ => trivial
  have hleft := hhere.of_lands ((Journey.tours_visit (depth + 1) children parent).comes _) hsplit
  have hlast := (lands_leaveRow hpop |>.1 hleft).2 rfl |>.1
  cases hleg with | rows _ _ hchildren => ?_
  have hsiblings := Leg.InPlace.siblings parent hchildren
  have hentered : (m'.entering cells).world.Coherent := hcoherent.happen fun _ _ heq => by cases heq
  refine (Detour.lands_forRows_cons hgoes').2 ((hfollows.lands hsiblings trivial (h.entering cells)
    hentered hun₁ ((Journey.tours_visit (depth + 1) _ parent).comes (m'.entering cells))
    (ihhere hsiblings trivial (h.entering cells) hentered hun₁ hfirst)).mono ?_)
  rintro _ s w ⟨r', rfl, hmeets⟩
  rcases hmeets.abreast with hstop | ⟨rfl, h₁⟩
  · refine Detour.lands_leaveRow_registry.mono ?_
    rintro left s' w' ⟨hs, rfl⟩
    have hregistry : s'.registry = [] := hs.trans hmeets.registry
    exact ⟨fun _ _ => hregistry, fun _ => ⟨fun _ => (Detour.lands_forRows_of_stopped hstop).mono
      fun _ _ _ hs => hs.1 ▸ hregistry, fun _ _ => hregistry⟩⟩
  · have hpop' : s.vars.pop = .ok vars := (congrArg (·.vars.pop) h₁.session_eq).trans hpop
    exact lands_leaveRow hpop' |>.2 ⟨nofun, fun _ => ⟨fun hok => ihlater hok
      (.rows parent rows hchildren) trivial (h₁.withVars vars) hmeets.coherent hun (hlast hok),
      fun _ _ => hmeets.registry⟩⟩

/-! ## What belongs to an event -/

theorem failed (event : Event) (parent : Option Element) (mishap : Mishap) (m : Moment σ) :
    Arrives setup o inclusion included (.within event parent (.error mishap)) m m := by
  intro depth leg' m' hleg _ h _ _ _
  cases hleg
  exact h.registry_right

variable {inner : Inner} {opening : Opened}

/-- What belongs to an event and comes before its children comes to an end if it does so in the first
run. -/
theorem followInner (ih : Arrives setup o inclusion included (inner.leg events parent) m m₁)
    (hplace : InPlace inclusion included events children) (h : m.Abreast inclusion.OwnLine m')
    (hcoherent : m'.world.Coherent) (hun : m₁.world.Untripped)
    (hends : Lands o (Detour.followInner (Journey.visit setup depth)
      (Journey.visitAll setup (Journey.visit setup depth) events parent) parent inner).run m.session
      m.world fun _ _ _ => True) :
    Lands o (Detour.followInner (Journey.visit setup depth)
      (Journey.visitAll setup (Journey.visit setup depth) children parent) parent inner).run
      m'.session m'.world fun _ s _ => s.registry = [] := by
  cases inner with
  | nothing => exact lands_run_pure () |>.2 h.registry_right
  | rows rows => exact ih (.rows parent rows hplace) trivial h hcoherent hun hends
  | events loaded =>
    have hfollows := Journey.lands_followInner (R := fun _ => True) |>.1 hends
    cases depth with
    | zero =>
      obtain ⟨_, _, _, hrun, -⟩ := hfollows
      cases hrun
    | succ depth =>
      exact Journey.lands_followInner |>.2
        (ih (.siblings parent (.refl inclusion included loaded)) trivial h hcoherent hun hfollows)

theorem opened (hinner : Tour setup o (opening.inner.leg event.children parent) m here r m₁)
    (hlater : m₁.world.Later m₂.world)
    (hfollows : Follows setup o inclusion included (opening.inner.leg event.children parent) m here r
      m₁)
    (ihinner : Arrives setup o inclusion included (opening.inner.leg event.children parent) m m₁)
    (ihbelow : r = .ok () → Arrives setup o inclusion included
      (.siblings event.lastChildren opening.element) m₁ m₂) :
    Arrives setup o inclusion included (.within event parent (.ok opening)) m m₂ := by
  intro depth leg' m' hleg _ h hcoherent hun hends
  have hun₁ := hun.before hlater
  have henters := opening.inner.enters_leg event.children parent m
  have hfirst := Lands.mono hends fun _ _ _ _ => trivial
  cases hleg with
  | @within _ children _ _ hchildren =>
    have hplace := opening.inner.leg_inPlace parent hchildren
    have hbegun := ihinner.followInner hchildren h hcoherent hun₁ hfirst
    refine Lands.mono (hfollows.lands hplace henters h hcoherent hun₁
      (Journey.tours_inner depth children parent _ m') hbegun) ?_
    rintro _ s w ⟨r', rfl, hmeets⟩
    refine ⟨hmeets.registry, fun hok => ?_⟩
    rcases hmeets.abreast with hstop | ⟨rfl, h₁⟩
    · exact (Journey.lands_visitAll_of_stopped hstop).mono fun _ _ _ hs => hs ▸ hmeets.registry
    · have hr : r' = .ok () := by
        cases r' with
        | ok _ => rfl
        | error e => cases hok
      have hlast := (hinner.of_lands (Journey.tours_inner depth _ parent _ m) hends).2 hok
      exact ihbelow hr (.siblings opening.element hchildren.lastChildren) trivial h₁ hmeets.coherent
        hun hlast
  | inside _ =>
    -- the included events stand in the other list, in the place of the event that includes them
    have hfollowed := Journey.lands_followInner (R := fun _ => True) |>.1 hfirst
    cases depth with
    | zero =>
      obtain ⟨_, _, _, hrun, -⟩ := hfollowed
      cases hrun
    | succ depth =>
      exact Leg.Ends.succ (ihinner (.siblings parent (.refl inclusion included included)) henters h
        hcoherent hun₁ hfollowed)

/-! ## Events -/

theorem single (hplugins : setup.plugins = []) (hincludes : setup.Includes inclusion)
    (hloads : event = inclusion → m.Loads setup o inclusion included)
    {result : Except Mishap Opened} {carried done : Moment σ}
    (hopen : Comes o (Passage.openEvent setup event parent).run (m.starting event parent) result
      carried)
    (hwithin : carried.world.Later done.world) (hlater : done.world.Later m₁.world)
    (ih : Arrives setup o inclusion included (.within event parent result) carried done) :
    Arrives setup o inclusion included (.single event parent) m m₁ := by
  intro depth leg' m' hleg hgoes h hcoherent hun hends
  have hdone := hun.before hlater
  have hcarried := hdone.before hwithin
  have hinside : (Leg.within event parent result).Ends setup o depth (fun _ => True) carried :=
    lands_iff hopen |>.1 hends.within
  cases hleg with
  | @single _ children _ hchildren =>
    have hstarted := h.starting event children parent
    have hcoherent₁ : (m'.starting { event with children } parent).world.Coherent := by
      have htold : (m'.world.tell (.stage (.started { event with children } parent))).Coherent :=
        hcoherent.happen fun _ _ heq => by cases heq
      exact htold.answer (o := o) (r := .pulse) rfl
    have huntripped {w : World σ} (hw : w.Coherent) (hgoes : w.isStopped = false) : w.Untripped :=
      fun t hmem => hw.not_stopped hgoes ⟨_, t, hmem⟩
    have hun' := huntripped hcoherent₁ (h.world.stopped_eq.trans hgoes)
    have hkeeps : Leads o (Passage.openEvent setup { event with children } parent).run
        (m'.starting { event with children } parent).session
        (m'.starting { event with children } parent).world fun _ _ w => w.Coherent :=
      hcoherent₁.leads _
    refine Leg.lands_single hplugins ((((Passage.plain_openEvent hplugins { event with children }
      parent).lands hstarted.registry_right).and ((leads_comes _).and
        (hkeeps.and (untripped_openEvent hun')))).mono ?_)
    rintro result' s w ⟨hs, hopen', hw, hloaded⟩
    -- the watchdog of the other run may have tripped; then it visits no more
    by_cases hun₁' : w.Untripped
    · obtain ⟨rfl, h₁⟩ := h.opens hplugins hopen hopen' hcarried hun₁'
      exact ih (.within parent result' hchildren) trivial h₁ hw hdone hinside
    · have hstop : w.isStopped = true :=
        eq_true_of_ne_false fun hgoes => hun₁' (huntripped hw hgoes)
      exact Leg.within_of_stopped hs hstop fun opened heq included hinner =>
        hun₁' (hloaded opened heq included hinner)
  | put _ =>
    obtain ⟨rfl, h₁⟩ := h.opens_left hincludes hgoes (hloads rfl) hopen hcarried
    exact ih (.inside parent) trivial h₁ hcoherent hdone hinside

end Arrives

/-- **What comes of a part of a traversal comes to an end if the part does.** -/
theorem Tour.arrives (hplugins : setup.plugins = []) (hincludes : setup.Includes inclusion)
    {stays : List (Stay σ)} (h : Tour setup o leg m stays r m₁)
    (hloads : ∀ stay ∈ Stay.allOf stays, stay.event = inclusion →
      stay.before.Loads setup o inclusion included) :
    Arrives setup o inclusion included leg m m₁ := by
  induction h with
  | none parent m => exact .none parent m
  | next hgoes hhere hlater ihhere ihlater =>
    obtain ⟨hloadshere, hloadslater⟩ := Stay.forall_allOf_append.1 hloads
    exact .cons hgoes hhere hlater.later (hhere.follows hplugins hincludes hloadshere)
      (ihhere hloadshere) fun _ => ihlater hloadslater
  | stopped hstop => exact .stopped hstop
  | ended hgoes hhere ih =>
    exact .cons hgoes hhere (.refl _) (hhere.follows hplugins hincludes hloads) (ih hloads) nofun
  | noRow children parent m => exact .noRow children parent m
  | nextRow hgoes hhere hpop hlater ihhere ihlater =>
    obtain ⟨hloadshere, hloadslater⟩ := Stay.forall_allOf_append.1 hloads
    exact .row hgoes hhere hpop hlater.later (hhere.follows hplugins hincludes hloadshere)
      (ihhere hloadshere) fun _ => ihlater hloadslater
  | stoppedRow hstop => exact .stoppedRow hstop
  | endedRow hgoes hhere hpop ih =>
    exact .row hgoes hhere hpop (.refl _) (hhere.follows hplugins hincludes hloads) (ih hloads) nofun
  | failed event parent mishap m => exact .failed event parent mishap m
  | opened hinner hbelow ihinner ihbelow =>
    obtain ⟨hloadsinner, hloadsbelow⟩ := Stay.forall_allOf_append.1 hloads
    exact .opened hinner hbelow.later (hinner.follows hplugins hincludes hloadsinner)
      (ihinner hloadsinner) fun _ => ihbelow hloadsbelow
  | halted hinner hreport ih =>
    exact .opened hinner hreport.later (hinner.follows hplugins hincludes hloads) (ih hloads) nofun
  | finished hopen hwithin hsettle hfinish ih =>
    obtain ⟨hload, hloadswithin⟩ := Stay.forall_allOf_singleton.1 hloads
    exact .single hplugins hincludes hload hopen hwithin.later (hsettle.later.trans hfinish.later)
      (ih hloadswithin)
  | lost hopen hwithin hsettle ih =>
    obtain ⟨hload, hloadswithin⟩ := Stay.forall_allOf_singleton.1 hloads
    exact .single hplugins hincludes hload hopen hwithin.later hsettle.later (ih hloadswithin)
  | unwound hopen hwithin ih =>
    obtain ⟨hload, hloadswithin⟩ := Stay.forall_allOf_singleton.1 hloads
    exact .single hplugins hincludes hload hopen hwithin.later (.refl _) (ih hloadswithin)

end PageScript
