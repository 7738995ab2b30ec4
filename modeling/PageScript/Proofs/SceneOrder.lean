import PageScript.Proofs.Scenes

/-!
# When plugins have their turns

The scenes of a run that is neither stopped nor loses the browser come in the order of its stays.
Within a stay the event does what it does itself and is carried out; then come the scenes of all
that belongs to it, and the calls by which its context is restored; it finishes, and the plugins
after it have their turns right then. Plugins around a click come right before the click and, if it
has succeeded, right after it. The plugins before the test come before the first event, those at the
end of it come last, and there is no other occasion for plugins.

Every tour has scenes, but only one that has not been stopped and comes to its end has all of them in
this order.
-/

namespace PageScript

variable {σ : Type} {o : Outside σ} {setup : Setup} {event : Event} {s s' : Session}
  {w w' : World σ} {m m' : Moment σ}

/-- The occasion after an event. -/
def Event.closing (event : Event) (element : Option Element) : Occasion where
  phase := .afterEvent
  event := some event
  element := element

namespace Stay

mutual

/-- The scenes of a stay, from the start of the event up to the plugins after it. -/
inductive SceneOrder (o : Outside σ) : Stay σ → List (Scene σ) → Prop where
  | mk {visit : Visit} {before carried : Moment σ} {within : List (Stay σ)}
      {departure : Departure σ} {own inner settled : List (Scene σ)} {f : Firing σ} :
      visit.event.Acts o own → SceneOrders o within inner → Scene.Calls settled →
      f.occasion = visit.event.closing visit.element →
      f.before.history.head? = some (.stage (.finished visit.event visit.element)) →
      SceneOrder o ⟨visit, before, carried, within, some departure⟩
        ([.started visit.event] ++ own ++ [.carriedOut visit before carried] ++ inner ++ settled ++
          [.finished visit.event visit.element, .fired f])

/-- The scenes of stays, one after another. -/
inductive SceneOrders (o : Outside σ) : List (Stay σ) → List (Scene σ) → Prop where
  | nil : SceneOrders o [] []
  | cons {stay : Stay σ} {stays : List (Stay σ)} {scenes scenes' : List (Scene σ)} :
      SceneOrder o stay scenes → SceneOrders o stays scenes' →
      SceneOrders o (stay :: stays) (scenes ++ scenes')

end

theorem SceneOrders.append {stays stays' : List (Stay σ)} {scenes scenes' : List (Scene σ)}
    (h : SceneOrders o stays scenes) (h' : SceneOrders o stays' scenes') :
    SceneOrders o (stays ++ stays') (scenes ++ scenes') := by
  induction stays generalizing scenes with
  | nil =>
    cases h
    exact h'
  | cons stay stays ih =>
    cases h with
    | cons hstay hstays =>
      rw [List.append_assoc]
      exact .cons hstay (ih hstays)

theorem SceneOrder.all {stay : Stay σ} {scenes : List (Scene σ)} (h : SceneOrder o stay scenes) :
    SceneOrders o [stay] scenes := by
  rw [← List.append_nil scenes]
  exact .cons h .nil

end Stay

namespace Stretch

/-! ## The end of an event -/

/-- The report of a failure has no scene. -/
theorem quiet_report (setup : Setup) (event : Event) (failure : Failure) :
    Leads o (Journey.report event failure).run s w fun _ s' w' =>
      Scenes setup o ⟨s, w⟩ [] ⟨s', w'⟩ := by
  have hfailed : Scenes setup o ⟨s, w⟩ [] ⟨s, w.tell (.stage (.failed event failure))⟩ :=
    .quiet (World.later_tell w _) (fun hway => ⟨hway, (List.append_nil _).symm⟩) rfl
  refine (Journey.leads_report event failure).mono fun _ _ _ h => ?_
  cases h with
  | own _ r => exact quiet_say hfailed r
  | lost _ r => exact quiet_say hfailed r
  | halted _ => exact hfailed

/-- The context is restored by calls none of which is a click. -/
theorem scenes_restore (r : Restore) : Leads o (Passage.restore setup r).run s w fun _ s' w' =>
    ∃ settled, Scenes setup o ⟨s, w⟩ settled ⟨s', w'⟩ ∧
      (w'.isStopped = false → Scene.Calls settled) := by
  -- an event of a kind that is not for an element could do the same
  let event : Event := { kind := r.kind, name := "" }
  have hkind : event.kind ≠ .command .pluginloader ∧ event.kind.can .needsElement = false := by
    cases r <;> exact ⟨fun heq => (by cases heq), rfl⟩
  have hacted : Leads o (Passage.restore setup r).run s w fun _ s' w' =>
      (⟨s, w⟩ : Moment σ).Acted setup o event ⟨s', w'⟩ :=
    acted_passage hkind.1 (Passage.composed_restore event r)
  refine hacted.mono ?_
  rintro _ s' w' ⟨settled, hspan, hacts⟩
  exact ⟨settled, hspan, fun hgoes => (hacts hgoes).calls hkind.2⟩

theorem scenes_settle (event : Event) (result : Except Mishap Opened) :
    Leads o (Journey.settle setup event result).run s w fun _ s' w' =>
      ∃ settled, Scenes setup o ⟨s, w⟩ settled ⟨s', w'⟩ ∧
        (w'.isStopped = false → Scene.Calls settled) := by
  cases result with
  | error mishap =>
    exact (quiet_report setup event _).mono fun _ _ _ h => ⟨[], h, fun _ _ hmem => by cases hmem⟩
  | ok opened =>
    refine Journey.leads_settle ((scenes_restore opened.restore).mono ?_)
    rintro result s₁ w₁ ⟨settled, hspan, hcalls⟩
    cases result with
    | ok _ => exact ⟨settled, hspan, hcalls⟩
    | error mishap =>
      refine (quiet_report setup event _).mono fun _ s₂ w₂ h => ⟨settled, ?_, fun hgoes => ?_⟩
      · rw [← List.append_nil settled]
        exact hspan.trans h
      · exact hcalls (h.later.goes hgoes)

/-- The plugins after an event have their turns right after it has finished. -/
theorem scenes_finish (event : Event) (element : Option Element) :
    Leads o (Journey.finish setup event element).run s w fun _ s' w' =>
      ∃ scenes, Scenes setup o ⟨s, w⟩ scenes ⟨s', w'⟩ ∧ (w'.isStopped = false → ∃ f,
        f.occasion = event.closing element ∧
        f.before.history.head? = some (.stage (.finished event element)) ∧
        scenes = [.finished event element, .fired f]) := by
  have hphase : (event.closing element).phase ≠ .afterTest := fun heq => by cases heq
  simp only [Journey.finish, leads_run_bind, leads_journey_pulse, leads_journey_tell,
    leads_run_lift, leads_fire]
  have hpulse : w.Later w.pulse := ⟨List.suffix_cons _ _, id, Nat.le_refl _⟩
  have htold : w.pulse.Tells [.finished event element]
      (w.pulse.tell (.stage (.finished event element))) := fun hway => ⟨hway, rfl⟩
  have hfinished : Scenes setup o ⟨s, w⟩ [.finished event element]
      ⟨s, w.pulse.tell (.stage (.finished event element))⟩ :=
    .single (hpulse.trans (World.later_tell _ _)) ((World.tells_pulse w).after htold)
      (.finished event element) (List.append_nil _).symm fun _ heq => by cases heq
  refine World.Leads.mono (leads_fired s hphase) fun _ w' h => ?_
  rcases h with ⟨hstop, rfl⟩ | ⟨-, hcomes⟩
  · exact ⟨_, hfinished, fun hgoes => by rw [hstop] at hgoes; cases hgoes⟩
  · exact ⟨_, hfinished.trans (.fired hcomes), fun _ => ⟨_, rfl, rfl, rfl⟩⟩

/-! ## Tours -/

/-- From one point of a run to another there are scenes, and they come in the order of the
stays, unless the run has been stopped or has lost the browser by then. -/
def Told (setup : Setup) (o : Outside σ) (m : Moment σ) (stays : List (Stay σ))
    (r : Except Error Unit) (m' : Moment σ) : Prop :=
  ∃ scenes, Scenes setup o m scenes m' ∧
    (m'.world.isStopped = false → r = .ok () → Stay.SceneOrders o stays scenes)

/-- **The scenes of a tour come in the order of its stays.** -/
theorem spans_told (setup : Setup) (o : Outside σ) : Tour.Spans setup o (Told setup o) where
  refl m := ⟨[], .refl m, fun _ _ => .nil⟩
  trans := by
    rintro m m₁ m' here later r ⟨scenes, hspan, horder⟩ ⟨scenes', hspan', horder'⟩ - hlater
    exact ⟨scenes ++ scenes', hspan.trans hspan', fun hgoes hr =>
      (horder (hlater.goes hgoes) rfl).append (horder' hgoes hr)⟩
  skips {m} _ := ⟨[], quiet_say (.refl m) _, fun _ _ => .nil⟩
  row {m cells here r m₁ vars} _ _ h := by
    obtain ⟨scenes, hspan, horder⟩ := h
    have hentered : Scenes setup o m [] (m.entering cells) :=
      .quiet (World.later_tell _ _) (fun hway => ⟨hway, (List.append_nil _).symm⟩) rfl
    have hleft : Scenes setup o m₁ [] (m₁.withVars vars) := .quiet (.refl _) (.refl _) rfl
    refine ⟨scenes, ?_, horder⟩
    have hrow := (hentered.trans hspan).trans hleft
    rw [List.append_nil] at hrow
    exact hrow
  halts := by
    rintro m here e m₁ event m' ⟨scenes, hspan, -⟩ hreport
    have hquiet := hreport.of_leads (quiet_report setup event _)
    exact ⟨scenes ++ [], hspan.trans hquiet, fun _ heq => by cases heq⟩
  finishes := by
    rintro m event parent result carried within done left after hopen - ⟨inner, hinner, horder⟩
      hsettle hfinish
    -- the scenes of the event itself, of what is within it, of its settling and of its end
    obtain ⟨own, hopened, hacts⟩ := scenes_openEvent hopen
    obtain ⟨settled, hsettled, hcalls⟩ := hsettle.of_leads (scenes_settle event result)
    obtain ⟨closing, hclosed, hclosing⟩ := hfinish.of_leads (scenes_finish event _)
    refine ⟨_, ((hopened.trans hinner).trans hsettled).trans hclosed, fun hgoes _ => ?_⟩
    have hleft := hclosed.later.goes hgoes
    have hdone := hsettled.later.goes hleft
    obtain ⟨f, hoccasion, hhead, rfl⟩ := hclosing hgoes
    exact (Stay.SceneOrder.mk (hacts (hinner.later.goes hdone)) (horder hdone rfl) (hcalls hleft)
      hoccasion hhead).all
  loses := by
    rintro m event parent result carried within done e m' hopen - ⟨inner, hinner, -⟩ hsettle
    obtain ⟨own, hopened, -⟩ := scenes_openEvent hopen
    obtain ⟨settled, hsettled, -⟩ := hsettle.of_leads (scenes_settle event result)
    exact ⟨_, (hopened.trans hinner).trans hsettled, fun _ heq => by cases heq⟩
  unwinds := by
    rintro m event parent result carried within e m' hopen - ⟨inner, hinner, -⟩
    obtain ⟨own, hopened, -⟩ := scenes_openEvent hopen
    exact ⟨_, hopened.trans hinner, fun _ heq => by cases heq⟩

/-! ## Before the first event -/

/-- Before the first event the browser is asked for the window in use, and then the plugins before
the test have their turns. -/
theorem scenes_begin :
    Leads o (Journey.noteWindow >>= fun _ => fire setup { phase := .beforeTest }) s w fun _ s' w' =>
      ∃ scenes, Scenes setup o ⟨s, w⟩ scenes ⟨s', w'⟩ ∧ (w'.isStopped = false → ∃ first,
        first.occasion = { phase := .beforeTest } ∧
        scenes = [.called .currentWindow w, .fired first]) := by
  have hphase : ({ phase := .beforeTest } : Occasion).phase ≠ .afterTest := fun heq => by cases heq
  have hnoting (x : Except Cut (Except BrowserError String)) :
      (noting s x).registry = s.registry := by
    rcases x with _ | _ | _ <;> rfl
  refine leads_begin (Q := fun s' w' => ∃ scenes, Scenes setup o ⟨s, w⟩ scenes ⟨s', w'⟩ ∧
    (w'.isStopped = false → ∃ first, first.occasion = { phase := .beforeTest } ∧
      scenes = [.called .currentWindow w, .fired first])) ?_
  rw [Worker.call, World.leads_guarded]
  split
  · rename_i hcut
    have hstop : w.isStopped = true := (Bool.and_eq_true_iff.1 hcut).2
    refine (leads_fired _ hphase).mono fun _ w' h => ?_
    rcases h with ⟨-, rfl⟩ | ⟨hgoes, -⟩
    · exact ⟨[], .refl _, fun hgoes => by rw [hstop] at hgoes; cases hgoes⟩
    · rw [hstop] at hgoes
      cases hgoes
  · have hnoted : Scenes setup o ⟨s, w⟩ [.called .currentWindow w]
        ⟨noting s (w.step o (.untilStop none) (.act (.call .currentWindow))).1,
          (w.step o (.untilStop none) (.act (.call .currentWindow))).2⟩ :=
      (Scenes.called setup o s .currentWindow w).trans (.quiet (.refl _) (.refl _) (hnoting _))
    refine (leads_fired _ hphase).mono fun _ w' h => ?_
    rcases h with ⟨hstop, rfl⟩ | ⟨-, hcomes⟩
    · exact ⟨_, hnoted, fun hgoes => by rw [hstop] at hgoes; cases hgoes⟩
    · exact ⟨_, hnoted.trans (.fired hcomes), fun _ => ⟨_, rfl, rfl⟩⟩

end Stretch

/-! ## Whole runs -/

section Runs

variable {calendar : Calendar} {stopAt : Option Duration} {events : List Event} {outside : σ}
  {ended : Ended σ}

/-- What comes before the events is no landmark. -/
theorem World.landmarks_opened (setup : Setup) (calendar : Calendar) (stopAt : Option Duration)
    (events : List Event) (outside : σ) :
    underWay (opened setup calendar stopAt events outside).history = none ∧
      landmarks (opened setup calendar stopAt events outside).history = [] :=
  keeps_opened (P := (dawn setup calendar stopAt outside).Tells [])
    (fun r _ h => h.before (tells_say _ r))
    (fun helapses h => h.before (tells_of_adds helapses.adds)) (.refl _) events rfl

namespace Course

variable (course : Course setup o calendar stopAt events outside ended)

/-- The plugins at the end of the test have their turns. -/
def last : Firing σ where
  occasion := { phase := .afterTest }
  session := course.session
  before := course.before
  after := course.after

/-- All scenes of a run that is neither stopped nor loses the browser: before its stays, in them,
and after them. -/
def scenes (begun : World σ) (first : Firing σ) (inner : List (Scene σ)) : List (Scene σ) :=
  [.called .currentWindow begun, .fired first] ++ inner ++ [.fired course.last]

theorem last_comes : course.last.Comes setup o where
  run := by
    have hphase : course.last.occasion.phase = .afterTest := rfl
    rw [Firing.worker, if_pos hphase]
    exact course.run_plugins
  goes hne := absurd rfl hne
  last _ := rfl

/-- Once the plugins at the end of the test are done there are no more landmarks. -/
theorem tells_end : course.after.Tells [] ended.world :=
  course.keeps_end (P := course.after.Tells []) (fun r _ h => h.before (World.tells_say _ r))
    (fun helapses h => h.before (World.tells_of_adds helapses.adds)) (.refl _)

end Course

/-- The scenes of a whole run are all that its history has landmarks of. -/
structure Recounted (course : Course setup o calendar stopAt events outside ended)
    (stays : List (Stay σ)) (scenes : List (Scene σ)) : Prop where
  toured : Toured course stays
  between : Scenes setup o
    ⟨setup.session calendar, World.opened setup calendar stopAt events outside⟩ scenes
    ⟨course.session, course.after⟩
  landmarks_eq : landmarks ended.world.history = scenes.flatMap Scene.landmarks
  ordered : course.before.isStopped = false → course.result = .ok () → ∃ begun first inner,
    first.occasion = { phase := .beforeTest } ∧ Stay.SceneOrders o stays inner ∧
    scenes = course.scenes begun first inner

/-- **Every run has its scenes.** -/
theorem Course.recounted (course : Course setup o calendar stopAt events outside ended) :
    ∃ stays scenes, Recounted course stays scenes := by
  obtain ⟨stays, htoured⟩ := course.toured
  obtain ⟨begun, hbegun, htour⟩ := htoured.tour
  obtain ⟨before, hbefore, hfirst⟩ := hbegun.of_leads Stretch.scenes_begin
  obtain ⟨inner, hinner, horder⟩ := htour.spans (Stretch.spans_told setup o)
  have hspan := (hbefore.trans hinner).trans (Scenes.fired course.last_comes)
  obtain ⟨hway, hnone⟩ := World.landmarks_opened setup calendar stopAt events outside
  obtain ⟨-, hlandmarks⟩ := (hspan.tells.before course.tells_end) hway
  rw [hnone] at hlandmarks
  refine ⟨stays, _, htoured, hspan, hlandmarks, fun hgoes hresult => ?_⟩
  obtain ⟨first, hoccasion, rfl⟩ := hfirst (htour.later.goes hgoes)
  exact ⟨_, first, inner, hoccasion, horder hgoes hresult, rfl⟩

/-- An event has an element exactly if it is for one and has been carried out. -/
theorem Tour.element_iff {leg : Leg} {stays : List (Stay σ)} {r : Except Error Unit}
    (h : Tour setup o leg m stays r m') {stay : Stay σ} (hmem : stay ∈ Stay.allOf stays) :
    stay.visit.element.isSome = true ↔
      stay.event.kind.can .needsElement = true ∧ ∃ opened, stay.visit.result = .ok opened := by
  have hopens := ((h.opens hmem).of_leads (Stretch.visits_openEvent _ _)).2.2
  unfold Visit.element
  cases hresult : stay.visit.result with
  | error mishap => simp
  | ok opened =>
    -- what is no element event has no element, and none of the others can be of its kind
    cases hopens opened hresult with
    | element hcan => exact ⟨fun _ => ⟨hcan, _, rfl⟩, fun _ => rfl⟩
    | rows hkind | noRows hkind | script hkind | frame hkind =>
      rw [hkind]
      simp [Kind.can, Kind.capabilities]
    | command c _ hkind =>
      rw [hkind]
      cases c <;> simp [Kind.can, Kind.capabilities]

/-- The order of a run: the plugins before the test, then the stays with the plugins around clicks
and after events, then the plugins at the end of the test, and no scene besides. -/
structure InOrder (course : Course setup o calendar stopAt events outside ended)
    (stays : List (Stay σ)) (begun : World σ) (first : Firing σ) (inner : List (Scene σ)) :
    Prop where
  toured : Toured course stays
  first_eq : first.occasion = { phase := .beforeTest }
  ordered : Stay.SceneOrders o stays inner
  /-- After an event its element is shown if there is one. -/
  element_iff : ∀ stay ∈ Stay.allOf stays, stay.visit.element.isSome = true ↔
    stay.event.kind.can .needsElement = true ∧ ∃ opened, stay.visit.result = .ok opened
  comes : ∀ scene ∈ course.scenes begun first inner, scene.Comes setup o ended.world
  landmarks_eq : landmarks ended.world.history =
    (course.scenes begun first inner).flatMap Scene.landmarks

/-- **In a run that is neither stopped nor loses the browser plugins have their turns exactly where
they should**: once before the first event, once right after each event that has started has
finished, right before each click and right after each one that has succeeded, and once more at the
end. -/
theorem occasions_of_run (hrun : setup.run o calendar stopAt events outside = some ended)
    (hnot : ¬ Stopped ended.world.history) (hkept : ¬ Lost ended.world.history) :
    ∃ (course : Course setup o calendar stopAt events outside ended) (stays : List (Stay σ))
      (begun : World σ) (first : Firing σ) (inner : List (Scene σ)),
      InOrder course stays begun first inner := by
  obtain ⟨course⟩ := exists_course hrun
  obtain ⟨stays, scenes, htoured, hspan, hlandmarks, hordered⟩ := course.recounted
  have hended : ended.world.isStopped = false := (coherent_of_run hrun).goes hnot
  have hbefore : course.before.isStopped = false :=
    (course.later_after.trans course.later_end).goes hended
  obtain ⟨begun, first, inner, hfirst, horder, rfl⟩ :=
    hordered hbefore (course.result_eq_ok_iff.2 hkept)
  obtain ⟨_, -, htour⟩ := htoured.tour
  exact ⟨course, stays, begun, first, inner, htoured, hfirst, horder,
    fun stay hmem => htour.element_iff hmem,
    fun scene hmem => (hspan.comes scene hmem).later course.later_end, hlandmarks⟩

/-- The phases of the occasions that have come, in order. -/
def Landmark.phases (landmarks : List Landmark) : List Phase :=
  landmarks.filterMap fun
    | .occasion o => some o.phase
    | _ => none

/-- An outside with one window, in which each element is a box that is not checked. -/
def Outside.oneBox : Outside Unit
  | .call .currentWindow, s => .answer s (.ok "main")
  | .call .windowHandles, s => .answer s (.ok ["main"])
  | .call (.find ..), s => .answer s (.ok ⟨"box", "input"⟩)
  | .call (.isSelected _), s => .answer s (.ok false)
  | .call (.click _), s => .answer s (.ok ())
  | _, s => { start := s, ending := none }

/-- A box is checked, and then an event fails. -/
def checkingEvents : List Event :=
  [{ kind := .control .checkbox, name := "checkbox", actions := ⟨[("set", .flag true)]⟩ },
   { kind := .command .puts, name := "puts" }]

/-- A plugin that fails before each click of a box. -/
def Configured.clumsy : Configured where
  registration := {
    matcher := { phase := .beforeClick, elements := ["checkbox"] }
    plugin := { name := "clumsy", execute := fun _ => pure (.error .cancelled) } }

theorem occasions_checkingRun : ∃ ended, (Setup.small [.clumsy]).run .oneBox ⟨2020, 1, 1, 0, 0, 0⟩
      none checkingEvents () = some ended ∧
    ¬ Stopped ended.world.history ∧ ¬ Lost ended.world.history ∧
    Landmark.phases (landmarks ended.world.history) =
      [.beforeTest, .beforeClick, .afterClick, .afterEvent, .afterEvent, .afterTest] ∧
    Landmark.names (landmarks ended.world.history) = ["clumsy"] ∧
    ∃ (course : Course (.small [.clumsy]) .oneBox ⟨2020, 1, 1, 0, 0, 0⟩ none checkingEvents ()
        ended) (stays : List (Stay Unit)) (begun : World Unit) (first : Firing Unit)
      (inner : List (Scene Unit)), InOrder course stays begun first inner := by
  have hshown : ((Setup.small [.clumsy]).run .oneBox ⟨2020, 1, 1, 0, 0, 0⟩ none checkingEvents
      ()).map (fun ended => (ended.world.isStopped, losses ended.world.history,
        Landmark.phases (landmarks ended.world.history) ==
          [.beforeTest, .beforeClick, .afterClick, .afterEvent, .afterEvent, .afterTest],
        Landmark.names (landmarks ended.world.history) == ["clumsy"])) =
      some (false, [], true, true) := by
    decide +kernel
  obtain ⟨ended, hrun, hshown⟩ := Option.map_eq_some_iff.1 hshown
  simp only [Prod.mk.injEq] at hshown
  obtain ⟨hgoes, hlosses, hphases, hnames⟩ := hshown
  have hnot := (coherent_of_run hrun).not_stopped hgoes
  have hkept : ¬ Lost ended.world.history := fun hlost => lost_iff.1 hlost hlosses
  exact ⟨ended, hrun, hnot, hkept, eq_of_beq hphases, eq_of_beq hnames,
    occasions_of_run hrun hnot hkept⟩

end Runs
end PageScript
