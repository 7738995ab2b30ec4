import PageScript.Proofs.ActCalls
import PageScript.Proofs.StartsAndFinishes

/-!
# What restores the context

A frame event that has switched and an event that has attached to a window owe a call that goes back:
to the default content, or to the window that was in use before. Unless the run is stopped or loses the
browser, the call is made in any case, whatever becomes of the events within; it is made once, after
the last of them is done and before the event finishes. No other event makes a call there, and neither
does a frame event or an attaching event that has failed.

Of any two stays one lies within the other or comes after it, so the switches and the calls that go
back are bracketed as the stays are.
-/

namespace PageScript

variable {σ : Type} {o : Outside σ} {setup : Setup} {s : Session} {w : World σ} {event : Event}
  {parent : Option Element}

/-- What restores the context after the children of an event, given what it has come to. -/
def Visit.restore (v : Visit) : Restore :=
  match v.result with
  | .ok opened => opened.restore
  | .error _ => .nothing

/-- The calls that restore the context. -/
def Restore.calls : Restore → List Call
  | .nothing => []
  | .defaultContent => [.switchToDefaultContent]
  | .window handle => [.switchToWindow handle]

/-! ## The calls of an event's end -/

theorem passes_restore (r : Restore) : Stretch.Passes o (Passage.restore setup r) s w
    (fun _ _ w' => calls w'.history = calls w.history ++ r.calls)
    fun _ _ w' => calls w'.history = calls w.history ++ r.calls := by
  cases r with
  | nothing => exact Stretch.passes_pure fun _ => (List.append_nil _).symm
  | defaultContent =>
    refine Act.passes_then (Act.passes_say ?_)
    refine Act.passes_call (fun _ w' hcalled => ?_) fun e w' hcalled => ?_ <;>
      exact hcalled.calls_eq.trans (congrArg (· ++ _) (calls_notice _))
  | window handle =>
    refine Act.passes_then (Act.passes_say ?_)
    refine Act.passes_then (Act.passes_call (fun _ w' hcalled => Act.passes_edit ?_)
      fun e w' hcalled => ?_) <;>
      exact hcalled.calls_eq.trans (congrArg (· ++ _) (calls_notice _))

theorem calls_report (event : Event) (failure : Failure) :
    Stretch.Leads o (Journey.report event failure).run s w fun _ _ w' =>
      calls w'.history = calls w.history :=
  (Journey.adds_report event failure).mono fun _ _ w' hadds =>
    hadds.keeps (P := fun past => calls past = calls w.history)
      (fun new past htelling hpast => by cases htelling <;> exact (calls_notice _).trans hpast) rfl

/-- An event is settled with the call that restores the context and with no other. -/
theorem calls_settle (event : Event) (parent : Option Element) (result : Except Mishap Opened) :
    Stretch.Leads o (Journey.settle setup event result).run s w fun _ _ w' => w'.isStopped = false →
      calls w'.history = calls w.history ++ (Visit.mk event parent result).restore.calls := by
  cases result with
  | error mishap =>
    refine (calls_report event (.own mishap)).mono fun _ _ _ hcalls _ => ?_
    exact hcalls.trans (List.append_nil _).symm
  | ok opened =>
    refine Journey.leads_settle
      (Stretch.Leads.mono (passes_restore opened.restore) fun result s₁ w₁ h => ?_)
    cases result with
    | ok _ => exact h
    | error mishap =>
      have hlater : Stretch.Leads o (Journey.report event (.own mishap)).run s₁ w₁
          fun _ _ w₂ => w₁.Later w₂ := World.leads_later _
      refine ((calls_report event (.own mishap)).and hlater).mono ?_
      rintro r s₂ w₂ ⟨hcalls, hlater⟩ hgoes
      -- a stop of the restoring call would not have been undone
      exact hcalls.trans (h (hlater.goes hgoes))

/-! ## What an event owes -/

/-- How a stay owes what restores the context after it. -/
inductive Stay.Owes (o : Outside σ) (stay : Stay σ) : Restore → Prop where
  /-- A frame event that has switched owes the way back to the default content; the switch is the
  last call it has made. -/
  | frame {opened : Opened} (target : FrameTarget) (asked told : World σ) :
      stay.event.kind = .frame → stay.visit.result = .ok opened →
      stay.before.world.Later asked → asked.Called o (.switchToFrame target) (.ok ()) told →
      stay.carried.world = told.tell (.stage (.carriedOut stay.event stay.visit.result)) →
      Owes o stay .defaultContent
  /-- An attaching event that has attached to a window owes the way back to the window that the
  browser has told of at the start of the event. -/
  | attach {opened : Opened} {s : σ} (previous handle : String) :
      stay.event.kind = .command .attach → stay.visit.result = .ok opened →
      (o (.call .currentWindow) stay.before.world.outside).ending = some (.ok previous, s) →
      stay.carried.session.window = some handle → Owes o stay (.window previous)
  | failed {mishap : Mishap} : stay.visit.result = .error mishap → Owes o stay .nothing
  | other {opened : Opened} : stay.event.kind ≠ .frame → stay.event.kind ≠ .command .attach →
      stay.visit.result = .ok opened → Owes o stay .nothing

/-- A frame event that has switched to a frame. -/
theorem passes_frame (hkind : event.kind = .frame) :
    Stretch.Passes o (Passage.carryOut setup event parent) s w (fun opened _ w' =>
      opened.restore = .defaultContent ∧ ∃ target asked, w.Later asked ∧
        asked.Called o (.switchToFrame target) (.ok ()) w') fun _ _ _ => True := by
  have hframe : Stretch.Passes o (Passage.act setup (Act.frame setup event parent)) s w
      (fun _ _ w' => ∃ target asked, w.Later asked ∧
        asked.Called o (.switchToFrame target) (.ok ()) w') fun _ _ _ => True := by
    refine Act.passes_bind (Act.passes_later _) fun target s₁ w₁ hlater => ?_
    refine Act.passes_then (Act.passes_say ?_)
    refine Act.passes_bind (R := fun x _ w' => ∀ u, x = .ok u →
      ∃ target asked, w.Later asked ∧ asked.Called o (.switchToFrame target) (.ok ()) w') ?_ ?_
    · refine Act.passes_attempt fun x w' hcalled u heq => ?_
      subst heq
      exact ⟨target, _, hlater.trans (World.later_tell _ _), hcalled⟩
    · intro x s₂ w₂ hcalled
      cases x with
      | ok u => exact Act.passes_pure (hcalled u rfl)
      | error e =>
        split
        · rename_i heq
          cases heq
        · exact Act.passes_then (Act.passes_say (Act.passes_fail trivial))
        · exact Act.passes_fail trivial
  unfold Passage.carryOut
  rw [hkind]
  refine Stretch.Passes.bind hframe fun _ s' w' hcalled => ?_
  exact Stretch.passes_pure fun _ => ⟨rfl, hcalled⟩

/-- No other event but an attaching one leaves anything that restores the context. -/
theorem carries_other (hframe : event.kind ≠ .frame) (hattach : event.kind ≠ .command .attach) :
    Stretch.Carries o (Passage.carryOut setup event parent) s w fun opened =>
      opened.restore = .nothing := by
  unfold Passage.carryOut
  cases hkind : event.kind with
  | frame => exact absurd hkind hframe
  | markup m => exact Stretch.carries_act_any fun _ _ _ => Stretch.carries_pure rfl
  | control c => exact Stretch.carries_act_any fun _ _ _ => Stretch.carries_pure rfl
  | command c =>
    cases c with
    | attach => exact absurd hkind hattach
    | wait =>
      exact Stretch.carries_act_any fun _ _ _ => Stretch.carries_extend _ <|
        Stretch.carries_act_any fun _ _ _ => Stretch.carries_pure rfl
    | _ => exact Stretch.carries_act_any fun _ _ _ => Stretch.carries_pure rfl

/-- An attaching event that has attached to a window. -/
theorem passes_attach (hkind : event.kind = .command .attach) :
    Stretch.Passes o (Passage.carryOut setup event parent) s w (fun opened s' _ =>
      ∃ previous handle x, opened.restore = .window previous ∧ s'.window = some handle ∧
        (o (.call .currentWindow) w.outside).ending = some (.ok previous, x)) fun _ _ _ => True := by
  have hfirst : Stretch.Passes o (Passage.act setup (do
      let q ← WindowQuery.ofEvent setup event
      let previous : String ← Act.call .currentWindow
      return (q, previous))) s w (fun found _ _ =>
        ∃ x, (o (.call .currentWindow) w.outside).ending = some (.ok found.2, x))
      fun _ _ _ => True := by
    refine Act.passes_bind ((Act.still_ofEvent event s w).mono (fun _ _ _ h => h)
      fun _ _ _ _ => trivial) ?_
    rintro q _ _ ⟨rfl, rfl⟩
    refine Act.passes_then (Act.passes_call (fun previous w' hcalled => ?_) fun _ _ _ => trivial)
    exact Act.passes_pure ⟨_, hcalled.ending⟩
  have hattach (q : WindowQuery) (previous : String) (s : Session) (w : World σ) :
      Stretch.Passes o (Passage.act setup (Act.attach setup q previous)) s w
        (fun _ s' _ => ∃ handle, s'.window = some handle) fun _ _ _ => True := by
    refine Act.passes_then (Act.passes_now ?_)
    refine Act.passes_bind (Act.passes_any _) fun found s' w' _ => ?_
    cases found with
    | some handle =>
      exact Act.passes_then (Act.passes_say (Act.passes_edit ⟨handle, rfl⟩))
    | none =>
      refine Act.passes_then (Act.passes_call (fun _ w' _ => ?_) fun _ _ _ => trivial)
      exact Act.passes_then (Act.passes_say (Act.passes_fail trivial))
  unfold Passage.carryOut
  rw [hkind]
  refine Stretch.Passes.bind hfirst ?_
  rintro ⟨q, previous⟩ s₁ w₁ ⟨x, hending⟩
  refine Stretch.Passes.bind (Stretch.passes_extend trivial) fun _ s₂ w₂ (_ : True) => ?_
  refine Stretch.Passes.bind (hattach q previous s₂ w₂) ?_
  rintro _ s₃ w₃ ⟨handle, hwindow⟩
  exact Stretch.passes_pure fun _ => ⟨previous, handle, x, rfl, hwindow, hending⟩

/-- Unless the run has been stopped, an event that has been carried out owes what its kind says. -/
theorem owes_openEvent (stay : Stay σ)
    (hopen : Stretch.Comes o (Passage.openEvent setup stay.event stay.visit.parent).run
      (stay.before.starting stay.event stay.visit.parent) stay.visit.result stay.carried)
    (hgoes : stay.carried.world.isStopped = false) : stay.Owes o stay.visit.restore := by
  obtain ⟨w, hworld, hcarry⟩ := Stretch.comes_carryOut hopen
  rw [hworld] at hgoes
  cases hresult : stay.visit.result with
  | error mishap =>
    rw [Visit.restore, hresult]
    exact .failed hresult
  | ok opened =>
    rw [hresult] at hcarry
    rw [Visit.restore, hresult]
    dsimp only
    by_cases hframe : stay.event.kind = .frame
    · obtain ⟨hrestore, target, asked, hlater, hcalled⟩ :=
        hcarry.of_leads (passes_frame hframe) hgoes
      rw [hrestore]
      refine .frame target asked w hframe hresult ?_ hcalled (hresult ▸ hworld)
      exact (Moment.later_starting _ _ _).trans hlater
    · by_cases hattach : stay.event.kind = .command .attach
      · obtain ⟨previous, handle, x, hrestore, hwindow, hending⟩ :=
          hcarry.of_leads (passes_attach hattach) hgoes
        rw [hrestore]
        exact .attach previous handle hattach hresult hending hwindow
      · rw [(hcarry.of_leads (carries_other hframe hattach)).2 _ rfl]
        exact .other hframe hattach hresult

/-! ## The order of stays -/

namespace Stay

/-- Another stay lies within this one: after the event has been carried out, and before all that
belongs to it is done. -/
def Encloses (stay other : Stay σ) : Prop :=
  stay.carried.world.Later other.before.world ∧
    ∀ d d', stay.departure = some d → other.departure = some d' →
      d'.after.world.Later d.done.world

/-- Another stay begins only when this one is over. -/
def Precedes (stay other : Stay σ) : Prop :=
  ∀ d, stay.departure = some d → d.after.world.Later other.before.world

end Stay

/-- On a tour one stay lies within another one or comes after it, and if the tour is not ended by the
loss of the browser all of them are over. -/
structure Tour.Orders (m : Moment σ) (stays : List (Stay σ)) (r : Except Error Unit)
    (m' : Moment σ) : Prop where
  begins : ∀ stay ∈ Stay.allOf stays, m.world.Later stay.before.world
  ends : ∀ stay ∈ Stay.allOf stays, ∀ d, stay.departure = some d → d.after.world.Later m'.world
  departs : r = .ok () → ∀ stay ∈ Stay.allOf stays, stay.departure.isSome = true
  pairwise : (Stay.allOf stays).Pairwise fun a b => a.Encloses b ∨ a.Precedes b

theorem Tour.Orders.nil (m m' : Moment σ) : Tour.Orders m [] (.ok ()) m' := by
  refine ⟨Stay.forall_allOf_nil, Stay.forall_allOf_nil, fun _ => Stay.forall_allOf_nil, ?_⟩
  rw [Stay.allOf_nil]
  exact .nil

theorem Tour.Orders.append {m m₁ m' : Moment σ} {here later : List (Stay σ)}
    {r : Except Error Unit} (hhere : Tour.Orders m here (.ok ()) m₁)
    (hlater : Tour.Orders m₁ later r m') (hfirst : m.world.Later m₁.world)
    (hlast : m₁.world.Later m'.world) : Tour.Orders m (here ++ later) r m' := by
  refine ⟨Stay.forall_allOf_append.2 ⟨hhere.begins, fun stay hmem => ?_⟩,
    Stay.forall_allOf_append.2 ⟨fun stay hmem d hd => ?_, hlater.ends⟩,
    fun hr => Stay.forall_allOf_append.2 ⟨hhere.departs rfl, hlater.departs hr⟩, ?_⟩
  · exact hfirst.trans (hlater.begins stay hmem)
  · exact (hhere.ends stay hmem d hd).trans hlast
  · rw [Stay.allOf_append]
    refine List.pairwise_append.2 ⟨hhere.pairwise, hlater.pairwise, ?_⟩
    intro a ha b hb
    exact .inr fun d hd => (hhere.ends a ha d hd).trans (hlater.begins b hb)

/-- The stays within a stay come after its event has been carried out. -/
theorem Tour.Orders.around {stay : Stay σ} {r r' : Except Error Unit} {done m' : Moment σ}
    (h : Tour.Orders stay.carried stay.within r done)
    (hcarried : stay.before.world.Later stay.carried.world) (hdone : done.world.Later m'.world)
    (hdeparture : ∀ d, stay.departure = some d → d.done = done ∧ d.after = m')
    (hdeparts : r' = .ok () → r = .ok () ∧ stay.departure.isSome = true) :
    Tour.Orders stay.before [stay] r' m' := by
  refine ⟨Stay.forall_allOf_singleton.2 ⟨.refl _, fun inner hmem => ?_⟩,
    Stay.forall_allOf_singleton.2 ⟨fun d hd => ?_, fun inner hmem d hd => ?_⟩,
    fun hr => Stay.forall_allOf_singleton.2 ⟨(hdeparts hr).2, h.departs (hdeparts hr).1⟩, ?_⟩
  · exact hcarried.trans (h.begins inner hmem)
  · rw [(hdeparture d hd).2]
    exact .refl _
  · exact (h.ends inner hmem d hd).trans hdone
  · rw [Stay.allOf_singleton]
    refine List.pairwise_cons.2 ⟨fun inner hmem => .inl ⟨h.begins inner hmem, ?_⟩, h.pairwise⟩
    intro d d' hd hd'
    rw [(hdeparture d hd).1]
    exact h.ends inner hmem d' hd'

theorem spans_orders (setup : Setup) (o : Outside σ) : Tour.Spans setup o fun m stays r m' =>
    Tour.Orders m stays r m' where
  refl m := .nil m m
  trans hhere hlater hfirst hlast := hhere.append hlater hfirst hlast
  skips _ := .nil _ _
  row _ _ h := ⟨fun stay hmem => (World.later_tell _ _).trans (h.begins stay hmem), h.ends,
    h.departs, h.pairwise⟩
  halts h hreport := ⟨h.begins, fun stay hmem d hd => (h.ends stay hmem d hd).trans hreport.later,
    fun heq => (by cases heq), h.pairwise⟩
  finishes {m event parent result carried within done left after} hopen _ h hsettle hfinish := by
    have hwithin : Tour.Orders (Stay.mk ⟨event, parent, result⟩ m carried within
      (some ⟨done, left, after⟩)).carried within (.ok ()) done := h
    refine hwithin.around ((Moment.later_starting _ _ _).trans hopen.later)
      (hsettle.later.trans hfinish.later) ?_ fun _ => ⟨rfl, rfl⟩
    intro d hd
    cases hd
    exact ⟨rfl, rfl⟩
  loses {m event parent result carried within done e m'} hopen _ h hsettle := by
    have hwithin : Tour.Orders (Stay.mk ⟨event, parent, result⟩ m carried within .none).carried
      within (.ok ()) done := h
    exact hwithin.around ((Moment.later_starting _ _ _).trans hopen.later) hsettle.later
      (fun _ hd => by cases hd) fun heq => by cases heq
  unwinds {m event parent result carried within e m'} hopen _ h := by
    have hwithin : Tour.Orders (Stay.mk ⟨event, parent, result⟩ m carried within .none).carried
      within (.error e) m' := h
    exact hwithin.around ((Moment.later_starting _ _ _).trans hopen.later) (.refl _)
      (fun _ hd => by cases hd) fun heq => by cases heq

/-! ## Whole runs -/

/-- A stay is left with what restores the context and with no other call, when all the stays within
it are over, and then the event finishes. -/
structure Stay.Departs (o : Outside σ) (stay : Stay σ) (d : Departure σ) : Prop where
  departure_eq : stay.departure = some d
  owes : stay.Owes o stay.visit.restore
  within : ∀ inner ∈ Stay.allOf stay.within, ∃ d', inner.departure = some d' ∧
    stay.carried.world.Later inner.before.world ∧ d'.after.world.Later d.done.world
  calls_eq : calls d.left.world.history = calls d.done.world.history ++ stay.visit.restore.calls
  finishes : (d.left.world.pulse.tell (.stage (.finished stay.event stay.visit.element))).Adds
    Happening.Aside d.after.world

theorem Tour.departs {leg : Leg} {m m' : Moment σ} {stays : List (Stay σ)}
    (h : Tour setup o leg m stays (.ok ()) m') (hgoes : m'.world.isStopped = false)
    {stay : Stay σ} (hmem : stay ∈ Stay.allOf stays) : ∃ d, stay.Departs o d := by
  have horders := h.spans (spans_orders setup o)
  have hends := horders.ends stay hmem
  have hdeparts := horders.departs rfl stay hmem
  obtain ⟨r, m₁, hsingle⟩ := h.single_of_mem hmem
  obtain ⟨⟨event, parent, result⟩, before, carried, within, departure⟩ := stay
  cases hsingle with
  | lost _ _ _ => cases hdeparts
  | unwound _ _ => cases hdeparts
  | @finished _ _ _ _ _ done left _ _ hopen hwithin hsettle hfinish =>
    have hleft : left.world.Later m'.world := hfinish.later.trans (hends _ rfl)
    have hgoes₁ : left.world.isStopped = false := hleft.goes hgoes
    have hgoes₂ : carried.world.isStopped = false :=
      (hwithin.later.trans (hsettle.later.trans hleft)).goes hgoes
    refine ⟨⟨done, left, m₁⟩, rfl, owes_openEvent _ hopen hgoes₂, ?_, ?_, ?_⟩
    · intro inner hinner
      have hordered := hwithin.spans (spans_orders setup o)
      obtain ⟨d', hd'⟩ := Option.isSome_iff_exists.1 (hordered.departs rfl inner hinner)
      exact ⟨d', hd', hordered.begins inner hinner, hordered.ends inner hinner d' hd'⟩
    · exact hsettle.of_leads (calls_settle event parent result) hgoes₁
    · exact (hfinish.of_leads (Journey.adds_finish event _)).2

section Runs

variable {calendar : Calendar} {stopAt : Option Duration} {events : List Event} {outside : σ}
  {ended : Ended σ}

/-- In a run everything that an event has done to the context of the browser is undone. -/
structure Restored (course : Course setup o calendar stopAt events outside ended)
    (stays : List (Stay σ)) : Prop where
  toured : Toured course stays
  departs : ∀ stay ∈ Stay.allOf stays, ∃ d, stay.Departs o d
  pairwise : (Stay.allOf stays).Pairwise fun a b => a.Encloses b ∨ a.Precedes b

/-- **In a run that is not stopped and does not lose the browser, every event that has switched to a
frame or attached to a window is followed by the one call that goes back**, before it finishes and
after all that belongs to it, and no other event is followed by a call. -/
theorem restored_of_run (hrun : setup.run o calendar stopAt events outside = some ended)
    (hnot : ¬ Stopped ended.world.history) (hkept : ¬ Lost ended.world.history) :
    ∃ (course : Course setup o calendar stopAt events outside ended) (stays : List (Stay σ)),
      Restored course stays := by
  obtain ⟨course⟩ := exists_course hrun
  obtain ⟨stays, htoured⟩ := course.toured
  obtain ⟨begun, -, htour⟩ := htoured.tour
  have hended : ended.world.isStopped = false := (coherent_of_run hrun).goes hnot
  have hbefore : course.before.isStopped = false :=
    (course.later_after.trans course.later_end).goes hended
  rw [course.result_eq_ok_iff.2 hkept] at htour
  refine ⟨course, stays, htoured, fun stay hmem => htour.departs hbefore hmem, ?_⟩
  exact (htour.spans (spans_orders setup o)).pairwise

/-- A browser with windows and frames and with nothing in them. -/
structure Tabs where
  windows : List String
  focus : String
  frames : List FrameTarget := []
  deriving DecidableEq

/-- A call of the window in use fails if there is none. -/
def Tabs.inUse {α : Type} (t : Tabs) (a : α) : Conduct Tabs (Except BrowserError α) :=
  .answer t (if t.focus ∈ t.windows then .ok a else .error (.noSuchWindow t.focus))

def Tabs.conduct (t : Tabs) : (c : Call) → Conduct Tabs (Except BrowserError c.Answer)
  | .windowHandles => .answer t (.ok t.windows)
  | .currentWindow => t.inUse t.focus
  | .title => t.inUse "title"
  | .currentUrl => t.inUse "about:blank"
  | .switchToWindow handle =>
    if handle ∈ t.windows then .answer { t with focus := handle } (.ok ())
    else .answer t (.error (.noSuchWindow handle))
  | .close =>
    if t.focus ∈ t.windows then .answer { t with windows := t.windows.erase t.focus } (.ok ())
    else .answer t (.error (.noSuchWindow t.focus))
  | .switchToFrame target => .answer { t with frames := target :: t.frames } (.ok ())
  | .switchToDefaultContent => .answer { t with frames := [] } (.ok ())
  | _ => { start := t, ending := none }

def Outside.tabs : Outside Tabs
  | .call c, t => t.conduct c
  | _, t => { start := t, ending := none }

/-- An event that attaches to a window, and within it one that switches to a frame, in which an event
fails. -/
def switchingEvents : List Event :=
  [{ kind := .command .attach, name := "attach", selectors := ⟨[("index", .text "1")]⟩,
     children := [{ kind := .frame, name := "frame", selectors := ⟨[("name", .text "left")]⟩,
                    children := [{ kind := .command .puts, name := "puts" }] }] }]

theorem restored_switchingRun : ∃ ended, Setup.small.run .tabs ⟨2020, 1, 1, 0, 0, 0⟩ none
      switchingEvents ⟨["main", "other"], "main", []⟩ = some ended ∧
    ¬ Stopped ended.world.history ∧ ¬ Lost ended.world.history ∧
    calls ended.world.history = [.currentWindow, .currentWindow, .windowHandles,
      .switchToWindow "other", .switchToFrame (.name "left"), .switchToDefaultContent,
      .switchToWindow "main"] ∧
    ∃ (course : Course .small .tabs ⟨2020, 1, 1, 0, 0, 0⟩ none switchingEvents
        ⟨["main", "other"], "main", []⟩ ended) (stays : List (Stay Tabs)),
      Restored course stays := by
  have hshown : (Setup.small.run .tabs ⟨2020, 1, 1, 0, 0, 0⟩ none switchingEvents
      ⟨["main", "other"], "main", []⟩).map (fun ended => (ended.world.isStopped,
        losses ended.world.history, calls ended.world.history)) = some (false, [],
      [.currentWindow, .currentWindow, .windowHandles, .switchToWindow "other",
        .switchToFrame (.name "left"), .switchToDefaultContent, .switchToWindow "main"]) := by
    decide +kernel
  obtain ⟨ended, hrun, hshown⟩ := Option.map_eq_some_iff.1 hshown
  rw [Prod.mk.injEq, Prod.mk.injEq] at hshown
  obtain ⟨hgoes, hlosses, hcalls⟩ := hshown
  have hnot := (coherent_of_run hrun).not_stopped hgoes
  have hkept : ¬ Lost ended.world.history := fun hlost => lost_iff.1 hlost hlosses
  exact ⟨ended, hrun, hnot, hkept, hcalls, restored_of_run hrun hnot hkept⟩

end Runs
end PageScript
