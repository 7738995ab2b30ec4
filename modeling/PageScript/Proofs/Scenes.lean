import PageScript.Proofs.Landmarks
import PageScript.Proofs.SessionEdits
import PageScript.Proofs.RunTours

/-!
# Scenes

A part of a run goes on scene by scene: events start, call the browser, are carried out and finish,
and plugins have their turns. Each scene has its place in the run. The landmarks of the history are
those of the scenes, so that nothing that matters is left out; and the active plugins are those from
before and the ones that events have made active since, in the order of the scenes.

Every part of a traversal has its scenes, also where the run is stopped or the browser lost. If the
run has not been stopped, what an event does itself is as `Event.Acts` says: calls of the browser,
and clicks, each between the plugins before it and, if it succeeds, those after it.
-/

namespace PageScript

variable {σ α β : Type} {o : Outside σ} {setup : Setup} {event : Event} {s s' : Session}
  {w w' : World σ} {m m₁ m' : Moment σ}

/-- What comes in a run and has to do with plugins. -/
inductive Scene (σ : Type) where
  | started (event : Event)
  /-- The browser is called in this world, but not by a plugin. -/
  | called (c : Call) (w : World σ)
  | fired (f : Firing σ)
  /-- An event has been carried out, from before its start on. -/
  | carriedOut (visit : Visit) (before carried : Moment σ)
  | finished (event : Event) (element : Option Element)

/-- The plugin that an event makes active: the one of its name. -/
def Visit.loads (setup : Setup) (v : Visit) (s : Session) : Option Registration :=
  match v.event.kind, v.result with
  | .command .pluginloader, .ok _ => (v.event.actions.text? "classname").bind fun raw =>
    Registration.named? (Configured.catalog setup.plugins) (substitute setup.hijacks s.vars raw)
  | _, _ => none

namespace Scene

/-- The landmarks of a scene. -/
def landmarks : Scene σ → List Landmark
  | started event => [.started event]
  | called c _ => [.called c]
  | fired f => f.landmarks
  | carriedOut visit _ _ => [.carriedOut visit.event visit.result]
  | finished event element => [.finished event element]

/-- The plugin that is active from a scene on. -/
def loads (setup : Setup) : Scene σ → Option Registration
  | carriedOut visit before _ => visit.loads setup before.session
  | _ => none

/-- A scene has come by the time of this world. -/
inductive Comes (setup : Setup) (o : Outside σ) (w' : World σ) : Scene σ → Prop where
  | started (event : Event) : Comes setup o w' (.started event)
  | called (c : Call) (w : World σ) :
      (w.step o (.untilStop none) (.act (.call c))).2.Later w' → Comes setup o w' (.called c w)
  | fired {f : Firing σ} : f.Comes setup o → f.after.Later w' → Comes setup o w' (.fired f)
  | carriedOut {visit : Visit} {before carried : Moment σ} :
      Stretch.Comes o (Passage.openEvent setup visit.event visit.parent).run
        (before.starting visit.event visit.parent) visit.result carried →
      carried.world.Later w' → Comes setup o w' (.carriedOut visit before carried)
  | finished (event : Event) (element : Option Element) :
      Comes setup o w' (.finished event element)

theorem Comes.later {scene : Scene σ} (h : scene.Comes setup o w) (hlater : w.Later w') :
    scene.Comes setup o w' := by
  cases h with
  | started event => exact .started event
  | called c w h => exact .called c w (h.trans hlater)
  | fired hcomes h => exact .fired hcomes (h.trans hlater)
  | carriedOut hopen h => exact .carriedOut hopen (h.trans hlater)
  | finished event element => exact .finished event element

/-- Plugins have their turns right after these scenes: the scenes are all that has been told by
then, and the plugins that are active are those from before and the ones that the scenes have made
active. -/
structure Precede (setup : Setup) (m : Moment σ) (earlier : List (Scene σ)) (f : Firing σ) :
    Prop where
  tells : m.world.Tells (earlier.flatMap Scene.landmarks) f.before
  registry_eq : f.session.registry = m.session.registry ++ earlier.filterMap (Scene.loads setup)

end Scene

/-- The scenes of a part of a run. -/
structure Scenes (setup : Setup) (o : Outside σ) (m : Moment σ) (scenes : List (Scene σ))
    (m' : Moment σ) : Prop where
  later : m.world.Later m'.world
  tells : m.world.Tells (scenes.flatMap Scene.landmarks) m'.world
  comes : ∀ scene ∈ scenes, scene.Comes setup o m'.world
  registry_eq : m'.session.registry =
    m.session.registry ++ scenes.filterMap (Scene.loads setup)
  precede : ∀ earlier f later, scenes = earlier ++ .fired f :: later →
    Scene.Precede setup m earlier f

namespace Scenes

variable {scenes scenes' : List (Scene σ)}

theorem precede_append {earlier : List (Scene σ)} {f : Firing σ} (h : Scenes setup o m scenes m₁)
    (hf : Scene.Precede setup m₁ earlier f) : Scene.Precede setup m (scenes ++ earlier) f where
  tells := by rw [List.flatMap_append]; exact h.tells.trans hf.tells
  registry_eq := by rw [hf.registry_eq, h.registry_eq, List.filterMap_append, List.append_assoc]

theorem trans (h : Scenes setup o m scenes m₁) (h' : Scenes setup o m₁ scenes' m') :
    Scenes setup o m (scenes ++ scenes') m' where
  later := h.later.trans h'.later
  tells := by rw [List.flatMap_append]; exact h.tells.trans h'.tells
  comes scene hmem := (List.mem_append.1 hmem).elim
    (fun hmem => (h.comes scene hmem).later h'.later) (h'.comes scene)
  registry_eq := by
    rw [h'.registry_eq, h.registry_eq, List.filterMap_append, List.append_assoc]
  precede earlier f later heq := by
    -- before the firing come some of the first scenes, or all of them and some of the others
    rcases List.append_eq_append_iff.1 heq with ⟨since, rfl, hrest⟩ | ⟨since, hscenes, hrest⟩
    · exact h.precede_append (h'.precede since f later hrest)
    · cases since with
      | nil =>
        rw [List.append_nil] at hscenes
        have hfirst := h.precede_append (h'.precede [] f later hrest.symm)
        rwa [hscenes, List.append_nil] at hfirst
      | cons scene since =>
        rw [List.cons_append, List.cons.injEq] at hrest
        obtain ⟨rfl, rfl⟩ := hrest
        exact h.precede earlier f since hscenes

/-- A part of a run without a scene. -/
theorem quiet (hlater : m.world.Later m'.world) (htells : m.world.Tells [] m'.world)
    (hregistry : m'.session.registry = m.session.registry) : Scenes setup o m [] m' where
  later := hlater
  tells := htells
  comes _ hmem := by cases hmem
  registry_eq := hregistry.trans (List.append_nil _).symm
  precede _ _ _ heq := by cases List.append_eq_nil_iff.1 heq.symm |>.2

theorem refl (m : Moment σ) : Scenes setup o m [] m :=
  quiet (.refl _) (.refl _) rfl

/-- A part of a run with one scene, which is not that plugins have their turns. -/
theorem single {scene : Scene σ} (hlater : m.world.Later m'.world)
    (htells : m.world.Tells scene.landmarks m'.world) (hcomes : scene.Comes setup o m'.world)
    (hregistry : m'.session.registry = m.session.registry ++ (scene.loads setup).toList)
    (hscene : ∀ f, scene ≠ .fired f) : Scenes setup o m [scene] m' where
  later := hlater
  tells := by rw [List.flatMap_singleton]; exact htells
  comes _ hmem := by rw [List.mem_singleton.1 hmem]; exact hcomes
  registry_eq := by rw [hregistry]; cases hloads : scene.loads setup <;> simp [hloads]
  precede earlier f later heq := by
    cases earlier with
    | nil => exact absurd (List.cons.inj heq).1 (hscene f)
    | cons _ earlier => cases List.append_eq_nil_iff.1 (List.cons.inj heq).2.symm |>.2

theorem called (setup : Setup) (o : Outside σ) (s : Session) (c : Call) (w : World σ) :
    Scenes setup o ⟨s, w⟩ [.called c w] ⟨s, (w.step o (.untilStop none) (.act (.call c))).2⟩ :=
  single ((World.later_noteStep w _).trans (World.elapses_step o _ w _).later)
    (World.tells_step o _ w _) (.called c w (.refl _)) (List.append_nil _).symm
    fun _ heq => by cases heq

theorem fired {f : Firing σ} (h : f.Comes setup o) :
    Scenes setup o ⟨f.session, f.before⟩ [.fired f] ⟨f.session, f.after⟩ where
  later := h.later
  tells := by rw [List.flatMap_singleton]; exact h.tells
  comes _ hmem := by rw [List.mem_singleton.1 hmem]; exact .fired h (.refl _)
  registry_eq := (List.append_nil _).symm
  precede earlier f' later heq := by
    cases earlier with
    | nil =>
      obtain ⟨heq, -⟩ := List.cons.inj heq
      cases heq
      exact ⟨.refl _, (List.append_nil _).symm⟩
    | cons _ earlier => cases List.append_eq_nil_iff.1 (List.cons.inj heq).2.symm |>.2

end Scenes

/-! ## What an event does itself -/

namespace Event

/-- What is said before a click. -/
def clickLine (event : Event) : Remark :=
  .log ("Clicking " ++ event.name ++ " element.")

/-- The occasion on one side of a click. -/
def occasion (event : Event) (side : Side) (element : Element) : Occasion where
  phase := side.phase
  event := some event
  element := some element

/-- An element is clicked: the plugins before the click come right before it, and those after it
right after it, if the click succeeds, and not at all if it does not. -/
inductive Clicks (o : Outside σ) (event : Event) (element : Element) : List (Scene σ) → Prop where
  | succeeds {before after : Firing σ} : before.occasion = event.occasion .before element →
      (before.after.say event.clickLine).step o (.untilStop none) (.act (.call (.click element))) =
        (.ok (.ok ()), after.before) → after.occasion = event.occasion .after element →
      Clicks o event element [.fired before,
        .called (.click element) (before.after.say event.clickLine), .fired after]
  | fails {before : Firing σ} {e : BrowserError} {w : World σ} :
      before.occasion = event.occasion .before element →
      (before.after.say event.clickLine).step o (.untilStop none) (.act (.call (.click element))) =
        (.ok (.error e), w) →
      Clicks o event element [.fired before,
        .called (.click element) (before.after.say event.clickLine)]

/-- What an event does itself: it calls the browser, and if it is for an element it may click it. -/
inductive Acts (o : Outside σ) (event : Event) : List (Scene σ) → Prop where
  | nil : Acts o event []
  | call {scenes : List (Scene σ)} {c : Call} (w : World σ) : (∀ e, c ≠ .click e) →
      Acts o event scenes → Acts o event (scenes ++ [.called c w])
  | click {scenes click : List (Scene σ)} {element : Element} :
      event.kind.can .needsElement = true → event.Clicks o element click →
      Acts o event scenes → Acts o event (scenes ++ click)

theorem Clicks.acts {element : Element} {click : List (Scene σ)}
    (h : event.Clicks o element click) (hcan : event.kind.can .needsElement = true) :
    event.Acts o click :=
  Acts.nil.click hcan h

theorem Acts.append {scenes scenes' : List (Scene σ)} (h : event.Acts o scenes)
    (h' : event.Acts o scenes') : event.Acts o (scenes ++ scenes') := by
  induction h' with
  | nil => rwa [List.append_nil]
  | call w hc _ ih => rw [← List.append_assoc]; exact ih.call w hc
  | click hcan hclick _ ih => rw [← List.append_assoc]; exact ih.click hcan hclick

end Event

/-- A list of calls of the browser, none of which is a click. -/
def Scene.Calls (scenes : List (Scene σ)) : Prop :=
  ∀ scene ∈ scenes, ∃ c w, scene = .called c w ∧ ∀ e, c ≠ .click e

/-- An event that is not for an element clicks nothing. -/
theorem Event.Acts.calls {scenes : List (Scene σ)} (h : event.Acts o scenes)
    (hkind : event.kind.can .needsElement = false) : Scene.Calls scenes := by
  induction h with
  | nil => exact fun _ hmem => by cases hmem
  | call w hc _ ih =>
    intro scene hmem
    rcases List.mem_append.1 hmem with hmem | hmem
    · exact ih scene hmem
    · exact ⟨_, w, List.mem_singleton.1 hmem, hc⟩
  | click hcan _ _ _ =>
    rw [hkind] at hcan
    cases hcan

/-- From one point of a run to another an event does this and that itself. -/
def Moment.Acted (setup : Setup) (o : Outside σ) (event : Event) (m m' : Moment σ) : Prop :=
  ∃ scenes, Scenes setup o m scenes m' ∧ (m'.world.isStopped = false → event.Acts o scenes)

namespace Moment.Acted

theorem quiet (h : Scenes setup o m [] m') : m.Acted setup o event m' :=
  ⟨[], h, fun _ => .nil⟩

theorem refl (m : Moment σ) : m.Acted setup o event m := quiet (.refl m)

theorem trans (h : m.Acted setup o event m₁) (h' : m₁.Acted setup o event m') :
    m.Acted setup o event m' := by
  obtain ⟨scenes, hspan, hacts⟩ := h
  obtain ⟨scenes', hspan', hacts'⟩ := h'
  exact ⟨scenes ++ scenes', hspan.trans hspan', fun hgoes =>
    (hacts (hspan'.later.goes hgoes)).append (hacts' hgoes)⟩

/-- In a run that has been stopped it does not matter what an event does. -/
theorem of_stopped {scenes : List (Scene σ)} (h : Scenes setup o m scenes m')
    (hstop : m'.world.isStopped = true) : m.Acted setup o event m' :=
  ⟨scenes, h, fun hgoes => by rw [hgoes] at hstop; cases hstop⟩

theorem say (s : Session) (w : World σ) (r : Remark) :
    (⟨s, w⟩ : Moment σ).Acted setup o event ⟨s, w.say r⟩ :=
  quiet (.quiet (World.later_tell w _) (World.tells_say w r) rfl)

end Moment.Acted

namespace Stretch

/-- What comes of a call, which is made unless the run has been stopped. -/
theorem leads_play_call {c : Call} {F : Except Mishap c.Answer → Session → World σ → Prop}
    (hstop : w.isStopped = true → F (.error .abort) s w)
    (hcall : w.isStopped = false → ∀ r w',
      w.step o (.untilStop none) (.act (.call c)) = (r, w') →
        match r with
        | .error _ => F (.error .abort) s w'
        | .ok (.error e) => F (.error (.ofBrowser e)) s w'
        | .ok (.ok x) => F (.ok x) s w') : Leads o (Act.play setup (Act.call c)) s w F := by
  rw [Act.call, Act.attempt, Act.perform, Act.step, leads_play_bind, leads_play_bind,
    leads_play_move, Move.play, leads_ofWorker, World.leads_guarded]
  split
  · rename_i h
    rw [Bool.and_eq_true] at h
    exact leads_play_fail _ |>.2 (hstop h.2)
  · rename_i h
    replace hcall := hcall (Bool.eq_false_iff.2 fun hstop => h (by rw [hstop]; rfl))
    rcases hres : w.step o (.untilStop none) (.act (.call c)) with ⟨cut | e | x, w'⟩
    · exact leads_play_fail _ |>.2 (hcall _ w' hres)
    · exact leads_play_pure _ |>.2 (leads_play_fail _ |>.2 (hcall _ w' hres))
    · exact leads_play_pure _ |>.2 (leads_play_pure _ |>.2 (hcall _ w' hres))

/-- Plugins have their turns, unless the run has been stopped. -/
theorem leads_fired (s : Session) {occasion : Occasion} (hphase : occasion.phase ≠ .afterTest) :
    w.Leads o (s.fire setup occasion) fun _ w' => w.isStopped = true ∧ w' = w ∨
      w.isStopped = false ∧ (⟨occasion, s, w, w'⟩ : Firing σ).Comes setup o := by
  intro _ w' hrun
  cases hstop : w.isStopped with
  | true =>
    have hsame := (Session.leads_fire (Q := fun _ w' => w' = w)).2
      (by rw [if_pos hstop]) _ _ hrun
    exact .inl ⟨rfl, hsame⟩
  | false =>
    refine .inr ⟨rfl, ⟨?_, fun _ => hstop, fun heq => absurd heq hphase⟩⟩
    rw [Firing.worker, if_neg hphase]
    exact hrun

theorem chains_acted (setup : Setup) (o : Outside σ) (event : Event) :
    Chains fun (s : Session) (w : World σ) s' w' =>
      (⟨s, w⟩ : Moment σ).Acted setup o event ⟨s', w'⟩ :=
  ⟨fun _ _ => .refl _, .trans⟩

/-- A look at what the run remembers comes before what depends on it. -/
theorem acted_session {f : Session → Act α}
    (hf : ∀ s w, Leads o ((f s).play setup) s w fun _ s' w' =>
      (⟨s, w⟩ : Moment σ).Acted setup o event ⟨s', w'⟩) :
    Leads o (Act.play setup (Act.session >>= f)) s w fun _ s' w' =>
      (⟨s, w⟩ : Moment σ).Acted setup o event ⟨s', w'⟩ := by
  rw [leads_play_bind, Act.session, leads_play_move, Move.play, leads_get]
  exact hf s w

/-- A move by itself is a call or has no scene, unless it makes a plugin active. -/
theorem acted_move {m : Move} (hkind : event.kind ≠ .command .pluginloader)
    (hallowed : m.Allowed setup event.kind) (halone : m.Alone) :
    Leads o (Act.play setup (Act.move m)) s w fun _ s' w' =>
      (⟨s, w⟩ : Moment σ).Acted setup o event ⟨s', w'⟩ := by
  rw [leads_play_move]
  cases m with
  | say r => exact leads_ofWorker _ |>.2 (World.leads_say r |>.2 (.say s w r))
  | now => exact leads_ofWorker _ |>.2 (World.leads_now.2 (.refl _))
  | calendar => exact leads_ofWorker _ |>.2 (World.leads_calendar.2 (.refl _))
  | edit e =>
    refine leads_modify _ |>.2 (.quiet (.quiet (.refl _) (.refl _) ?_))
    cases e with
    | activate r => exact absurd hallowed.1 hkind
    | _ => rfl
  | step st =>
    rw [Move.play, leads_ofWorker, World.leads_guarded]
    split
    · exact .refl _
    · have hlater := (World.later_noteStep w st).trans
        (World.elapses_step o (.untilStop none) w st).later
      have htells := World.tells_step o (.untilStop none) w st
      rcases st with (c | _ | _ | _ | _) | _ | _
      · refine ⟨_, .called setup o s c w, fun _ => ?_⟩
        refine Event.Acts.nil.call w fun e heq => ?_
        subst heq
        cases halone
      all_goals exact .quiet (.quiet hlater htells rfl)
  | plugin p element args =>
    rw [Move.play, leads_bind, leads_get, leads_ofWorker]
    refine ((World.leads_later _).and (World.tells_plugin _ none _)).mono ?_
    rintro _ w' ⟨hlater, htells⟩
    have htells : w.Tells [] w' := htells.elim And.right id
    exact .quiet (.quiet hlater htells rfl)
  | session | aroundClick _ _ _ => cases halone

/-- An element is clicked, with plugins before and after. -/
theorem acted_click (element : Element) (hcan : event.kind.can .needsElement = true) :
    Leads o (Act.play setup (Act.click event element)) s w fun _ s' w' =>
      (⟨s, w⟩ : Moment σ).Acted setup o event ⟨s', w'⟩ := by
  have hphase (side : Side) : (event.occasion side element).phase ≠ .afterTest := by
    cases side <;> exact fun heq => by cases heq
  rw [Act.click, leads_play_bind, leads_play_move, Move.play, leads_fire]
  refine (leads_fired s (hphase .before)).mono fun _ w₁ hbefore => ?_
  dsimp only
  rw [leads_play_bind, Act.log, leads_play_say]
  dsimp only
  rw [leads_play_bind]
  have hsaid : Scenes setup o ⟨s, w₁⟩ [] ⟨s, w₁.say event.clickLine⟩ :=
    .quiet (World.later_tell w₁ _) (World.tells_say w₁ _) rfl
  rcases hbefore with ⟨hstop, rfl⟩ | ⟨-, hbefore⟩
  · -- in a run that has been stopped there is neither an occasion nor a click
    exact leads_play_call (fun _ => .of_stopped hsaid hstop) fun hgoes =>
      absurd hstop (Bool.eq_false_iff.1 hgoes)
  have hfired := (Scenes.fired hbefore).trans hsaid
  refine leads_play_call (fun hstop => .of_stopped hfired hstop) fun _ r w₂ hcall => ?_
  replace hcall : (w₁.say event.clickLine).step o (.untilStop none)
    (.act (.call (.click element))) = (r, w₂) := hcall
  have hcalled := Scenes.called setup o s (.click element) (w₁.say event.clickLine)
  rw [hcall] at hcalled
  rcases r with cut | e | x
  · exact .of_stopped (hfired.trans hcalled) (World.isStopped_of_cut hcall)
  · exact ⟨_, hfired.trans hcalled, fun _ => (Event.Clicks.fails rfl hcall).acts hcan⟩
  dsimp only
  rw [leads_play_move, Move.play, leads_fire]
  refine (leads_fired s (hphase .after)).mono fun _ w₃ hafter => ?_
  rcases hafter with ⟨hstop, rfl⟩ | ⟨-, hafter⟩
  · exact .of_stopped (hfired.trans hcalled) hstop
  · exact ⟨_, (hfired.trans hcalled).trans (Scenes.fired hafter), fun _ =>
      (Event.Clicks.succeeds rfl hcall rfl).acts hcan⟩

theorem spreads_acted (hkind : event.kind ≠ .command .pluginloader) :
    Act.Spreads setup event event.kind fun a => ∀ (s : Session) (w : World σ),
      Leads o (a.play setup) s w fun _ s' w' =>
        (⟨s, w⟩ : Moment σ).Acted setup o event ⟨s', w'⟩ where
  pure a _ _ := leads_play_pure a |>.2 (.refl _)
  fail m _ _ := leads_play_fail m |>.2 (.refl _)
  bind ha hf s w := (chains_acted setup o event).leads_play_bind (ha s w) hf
  move hallowed halone _ _ := acted_move hkind hallowed halone
  fill _ _ _ := acted_session fun _ _ => leads_play_pure _ |>.2 (.refl _)
  bound _ _ h _ _ := acted_session fun s => h _ s
  remembered _ _ h _ _ := acted_session fun s => h s s
  click element hcan _ _ := acted_click element hcan

/-- **What an event does itself goes on in scenes**, unless it makes plugins active. -/
theorem acted_passage (hkind : event.kind ≠ .command .pluginloader) {p : Passage α}
    (hp : p.Composed setup event event.kind) : Leads o p.run s w fun _ s' w' =>
      (⟨s, w⟩ : Moment σ).Acted setup o event ⟨s', w'⟩ :=
  (chains_acted setup o event).leads_passage (spreads_acted hkind).composed
    (fun d _ w => .quiet (.quiet ⟨List.suffix_cons _ _, id, Nat.le_refl _⟩
      (World.tells_extend w d) rfl)) hp s w

/-! ## Events that make plugins active -/

/-- A part of a run in which only remarks are made. -/
theorem quiet_say {m : Moment σ} (h : Scenes setup o m [] ⟨s, w⟩) (r : Remark) :
    Scenes setup o m [] ⟨s, w.say r⟩ :=
  h.trans (.quiet (World.later_tell w _) (World.tells_say w r) rfl)

/-- The plugin of a name is found, or the event is over. -/
theorem leads_namedPlugin : Leads o (Act.play setup (Act.namedPlugin setup event)) s w
    fun r s' w' => s' = s ∧ Scenes setup o ⟨s, w⟩ [] ⟨s, w'⟩ ∧ ∀ registration, r = .ok registration →
      ∃ raw, event.actions.text? "classname" = some raw ∧
        Registration.named? (Configured.catalog setup.plugins)
          (substitute setup.hijacks s.vars raw) = some registration := by
  have hrefl : Scenes setup o ⟨s, w⟩ [] ⟨s, w⟩ := .refl _
  rw [Act.namedPlugin, Act.require, Act.action?, leads_play_bind, leads_play_bind]
  cases htext : event.actions.text? "classname" with
  | none =>
    refine leads_play_pure (none : Option String) |>.2 (leads_play_fail _ |>.2 ⟨rfl, hrefl, ?_⟩)
    exact fun _ heq => by cases heq
  | some raw =>
    rw [Act.fill?, leads_play_bind, Act.fill, leads_play_bind, Act.session, leads_play_move,
      Move.play, leads_get]
    refine leads_play_pure _ |>.2 (leads_play_pure _ |>.2 (leads_play_pure _ |>.2 ?_))
    dsimp only
    split
    · rename_i registration hnamed
      refine leads_play_pure _ |>.2 ⟨rfl, hrefl, fun _ heq => ?_⟩
      cases heq
      exact ⟨raw, rfl, hnamed⟩
    · rw [leads_play_bind, Act.error, leads_play_say]
      exact leads_play_fail _ |>.2 ⟨rfl, quiet_say hrefl _, fun _ heq => by cases heq⟩

/-- An event that makes a plugin active does nothing else that would be a scene; it fails if there
is no such plugin. -/
theorem leads_loadPlugin (hkind : event.kind = .command .pluginloader) (parent : Option Element) :
    Leads o (Passage.carryOut setup event parent).run s w fun r s' w' =>
      w.Later w' ∧ w.Tells [] w' ∧
        s'.registry = s.registry ++ ((Visit.mk event parent r).loads setup s).toList ∧
        ∀ opened, r = .ok opened → ((Visit.mk event parent r).loads setup s).isSome = true := by
  rw [Passage.carryOut, hkind]
  dsimp only
  rw [Passage.plainly, leads_run_bind, Passage.act, leads_run_mk, Act.loadPlugin, leads_play_bind]
  refine leads_namedPlugin.mono ?_
  rintro r s' w' ⟨rfl, hspan, hnamed⟩
  cases r with
  | error m =>
    refine ⟨hspan.later, hspan.tells, ?_, fun _ heq => by cases heq⟩
    rw [Visit.loads, hkind]
    exact (List.append_nil _).symm
  | ok registration =>
    obtain ⟨raw, htext, hnamed⟩ := hnamed registration rfl
    dsimp only
    rw [leads_play_bind, Act.log, leads_play_say]
    dsimp only
    rw [leads_play_bind, leads_play_say]
    dsimp only
    rw [Act.edit, leads_play_move, Move.play, leads_modify]
    have hsaid := quiet_say (quiet_say hspan (.log ("Loaded plugin '" ++ registration.plugin.name
      ++ "' for " ++ registration.matcher.phase.word ++ " events."))) (.record registration.record)
    have hloads (opened : Opened) :
        (Visit.mk event parent (.ok opened)).loads setup s' = some registration := by
      rw [Visit.loads, hkind]
      dsimp only
      rw [htext, Option.bind_some, hnamed]
    refine leads_run_pure _ |>.2 ⟨hsaid.later, hsaid.tells, ?_, fun _ _ => ?_⟩
    · rw [hloads]
      rfl
    · rw [hloads]
      rfl

/-! ## Whole events -/

/-- An event is carried out. -/
theorem scenes_openEvent {parent : Option Element} {result : Except Mishap Opened}
    {carried : Moment σ}
    (h : Comes o (Passage.openEvent setup event parent).run (m.starting event parent) result
      carried) : ∃ own, Scenes setup o m
        ([.started event] ++ own ++ [.carriedOut ⟨event, parent, result⟩ m carried]) carried ∧
      (carried.world.isStopped = false → event.Acts o own) := by
  have hstarted : Scenes setup o m [.started event] (m.starting event parent) := by
    refine .single (m.later_starting event parent) ?_ (.started event) (List.append_nil _).symm
      fun _ heq => by cases heq
    have htold : m.world.Tells [.started event] (m.world.tell (.stage (.started event parent))) :=
      fun hway => ⟨hway, rfl⟩
    exact htold.before (World.tells_pulse _)
  obtain ⟨w, hworld, hcarry⟩ := comes_carryOut h
  have hresult : w.Later carried.world := by
    rw [hworld]
    exact World.later_tell w _
  have htold : w.Tells [.carriedOut event result] carried.world := by
    rw [hworld]
    exact fun hway => ⟨hway, rfl⟩
  have hcomes : (Scene.carriedOut ⟨event, parent, result⟩ m carried).Comes setup o carried.world :=
    .carriedOut h (.refl _)
  -- the event that loads a plugin adds to the registry, all others leave it as it is
  by_cases hkind : event.kind = .command .pluginloader
  · obtain ⟨hlater, hquiet, hregistry, -⟩ := hcarry.of_leads (leads_loadPlugin hkind parent)
    refine ⟨[], hstarted.trans (.single (hlater.trans hresult) (hquiet.after htold) hcomes hregistry
      fun _ heq => by cases heq), fun _ => .nil⟩
  · obtain ⟨own, hspan, hacts⟩ :=
      hcarry.of_leads (acted_passage hkind (Passage.composed_carryOut event parent))
    have hloads : (Visit.mk event parent result).loads setup m.session = none := by
      unfold Visit.loads
      split
      · rename_i heq _
        exact absurd heq hkind
      · rfl
    have hnone : (Scene.carriedOut ⟨event, parent, result⟩ m carried).loads setup = none := hloads
    refine ⟨own, (hstarted.trans hspan).trans (.single hresult htold hcomes ?_ fun _ heq => by
      cases heq), fun hgoes => hacts (hresult.goes hgoes)⟩
    rw [hnone]
    exact (List.append_nil _).symm

end Stretch
end PageScript
