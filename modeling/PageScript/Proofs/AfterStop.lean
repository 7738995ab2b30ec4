import PageScript.Proofs.HistoryAdditions
import PageScript.Proofs.Course
import PageScript.Proofs.TraversalInvariants

/-!
# After the stop

From the instant at which a run is stopped, whoever stops it, no event starts and no row begins, and
no plugin starts but those of the end of the test. The browser is called only by these plugins and
by the query for open windows that comes before them. A stop that comes while the worker waits cuts
it short there. A stop that does not come while it waits, because the plugin that is under way or
the outside has made it, lets that plugin go on up to its next wait, and nothing else.

`afterStopLaw` says so of everything in a history, given its past. Between plugins the worker is calm;
all the stages of a traversal keep it so, and a plugin that has started brings it back there.
-/

namespace PageScript

/-- The phase of the plugin that is under way, if one is. -/
def underWay : List Happening → Option (Option Phase)
  | [] => none
  | .stage (.pluginStarted _ phase) :: _ => some phase
  | .stage (.pluginEnded ..) :: _ | .stage (.pluginLeft ..) :: _ => none
  | _ :: past => underWay past

/-- The run has been stopped from within, by a plugin or by the outside. -/
def StoppedWithin (past : List Happening) : Prop :=
  ∃ who t, Happening.mark (.stopped who t) ∈ past ∧ (who = .outside ∨ who = .inside .plugin)

/-- A call may come after the stop: it is the query before the plugins at the end of a test, or a
plugin makes it, which is one of these or has gone on since it or the outside has made the stop. -/
def MayCall (c : Call) (past : List Happening) : Prop :=
  (c = .windowHandles ∧ past.head? = some (.stage (.occasion { phase := .afterTest }))) ∨
    underWay past = some (some .afterTest) ∨
    ∃ phase, underWay past = some phase ∧ StoppedWithin past

/-- What may happen once a run has been stopped. -/
def afterStopLaw : Happening → List Happening → Prop
  | .stage (.started ..), past => ¬ Stopped past
  | .stage (.row _), past => ¬ Stopped past
  | .stage (.pluginStarted _ phase), past => Stopped past → phase = some .afterTest
  | .called c, past => Stopped past → MayCall c past
  | _, _ => True

section Histories

variable {h : Happening} {past : List Happening} {ok : Stopper → Prop}

theorem afterStopLaw_ambient (hambient : h.Ambient ok) : afterStopLaw h past := by
  cases hambient <;> trivial

theorem underWay_ambient (hambient : h.Ambient ok) : underWay (h :: past) = underWay past := by
  cases hambient <;> rfl

theorem StoppedWithin.cons (hpast : StoppedWithin past) : StoppedWithin (h :: past) := by
  obtain ⟨who, t, hmem, hwho⟩ := hpast
  exact ⟨who, t, .tail _ hmem, hwho⟩

theorem afterStopLaw_remark (r : Remark) : afterStopLaw (.notice r.notice) past := by
  cases r <;> trivial

/-- After a stop only the plugin that was under way then, or one at the end of the test, is. -/
theorem underWay_since {since : List Happening} {phase : Option Phase}
    (habides : Abides afterStopLaw (since ++ past)) (hstop : Stopped past)
    (hway : underWay (since ++ past) = some phase) :
    phase = some .afterTest ∨ underWay past = some phase := by
  induction since with
  | nil => exact .inr hway
  | cons h since ih =>
    rw [List.cons_append] at habides hway
    obtain ⟨hlaw, habides⟩ := abides_cons.1 habides
    have hstopped : Stopped (since ++ past) := hstop.of_suffix (List.suffix_append since past)
    unfold underWay at hway
    split at hway
    · cases hway
    · rename_i heq
      cases heq
      cases hway
      exact .inl (hlaw hstopped)
    · cases hway
    · cases hway
    · rename_i heq
      cases heq
      exact ih habides hway

theorem underWay_remark (r : Remark) : underWay (.notice r.notice :: past) = underWay past := by
  cases r <;> rfl

end Histories

namespace World

variable {σ : Type} {o : Outside σ} {ok : Stopper → Prop} {phase : Option Phase} {g : Guard}
  {w w' : World σ}

/-- The history keeps the law, and so much is known of what is under way. -/
structure ObeysStop (way : Option (Option Phase)) (w : World σ) : Prop where
  abides : Abides afterStopLaw w.history
  coherent : w.Coherent
  underWay_eq : underWay w.history = way

theorem ObeysStop.not_stopped {way : Option (Option Phase)} (h : w.ObeysStop way)
    (hstop : w.isStopped = false) : ¬ Stopped w.history :=
  h.coherent.not_stopped hstop

/-- The worker is calm between plugins. -/
abbrev Calm (w : World σ) : Prop := w.ObeysStop none

theorem ObeysStop.elapses {way : Option (Option Phase)} (h : w.ObeysStop way)
    (helapses : w.Elapses ok w') : w'.ObeysStop way where
  abides := helapses.adds.keeps
    (fun _ _ hambient hpast => abides_cons.2 ⟨afterStopLaw_ambient hambient, hpast⟩) h.abides
  coherent := helapses.coherent h.coherent
  underWay_eq := helapses.adds.keeps
    (fun _ past hambient (hpast : underWay past = way) =>
      (underWay_ambient hambient).trans hpast) h.underWay_eq

theorem ObeysStop.say {way : Option (Option Phase)} (h : w.ObeysStop way) (r : Remark) :
    (w.say r).ObeysStop way where
  abides := abides_cons.2 ⟨afterStopLaw_remark r, h.abides⟩
  coherent := h.coherent.say r
  underWay_eq := (underWay_remark r).trans h.underWay_eq

/-- A stage that the law has nothing against. -/
theorem ObeysStop.tell {way way' : Option (Option Phase)} (h : w.ObeysStop way) {stage : Stage}
    (hlaw : afterStopLaw (.stage stage) w.history)
    (hway : underWay (.stage stage :: w.history) = way') :
    (w.tell (.stage stage)).ObeysStop way' where
  abides := abides_cons.2 ⟨hlaw, h.abides⟩
  coherent := h.coherent.happen fun _ _ heq => by cases heq
  underWay_eq := hway

theorem ObeysStop.noteStep {way : Option (Option Phase)} (h : w.ObeysStop way) {s : Step}
    (hcall : ∀ c, s = .act (.call c) → Stopped w.history → MayCall c w.history) :
    (w.noteStep s).ObeysStop way := by
  rcases s with (c | _ | _ | _ | _) | _ | _
  · exact ⟨abides_cons.2 ⟨hcall c rfl, h.abides⟩,
      h.coherent.happen (fun _ _ heq => by cases heq), h.underWay_eq⟩
  all_goals exact h

/-! ## While a plugin is under way -/

/-- What the plugin under way may do after the stop, if anything: it is one of those at the end of
the test, or the stop has come from within and has not been heeded yet. -/
structure InPlugin (g : Guard) (phase : Option Phase) (w : World σ) : Prop extends
    w.ObeysStop (some phase) where
  may : phase = some .afterTest ∨
    g.heedsStop = true ∧ (Stopped w.history → StoppedWithin w.history)

theorem InPlugin.mayCall (h : w.InPlugin g phase) (c : Call) (hstop : Stopped w.history) :
    MayCall c w.history := by
  rcases h.may with rfl | ⟨-, hwithin⟩
  · exact .inr (.inl h.underWay_eq)
  · exact .inr (.inr ⟨phase, h.underWay_eq, hwithin hstop⟩)

/-- The stops that come while a step is answered come from within. -/
theorem stoppedWithin_elapses (hheeds : g.heedsStop = true) (h : w.Elapses (g.admits true) w')
    (hwithin : Stopped w.history → StoppedWithin w.history) :
    Stopped w'.history → StoppedWithin w'.history := by
  refine h.adds.keeps (P := fun past => Stopped past → StoppedWithin past) ?_ hwithin
  intro new past hambient hpast hstop
  rcases stopped_cons.1 hstop with ⟨who, t, rfl⟩ | hstop
  · cases hambient with
    | stopped _ hadmits => exact ⟨who, t, .head _, .inl (hadmits.1 hheeds rfl)⟩
  · exact (hpast hstop).cons

/-- A step of a plugin that is answered leaves the plugin free to go on. -/
theorem InPlugin.step (h : w.InPlugin g phase) (s : Step) : match w.step o g s with
    | (.ok _, w') => w'.InPlugin g phase
    | (.error _, w') => w'.ObeysStop (some phase) := by
  have hnote : (w.noteStep s).ObeysStop (some phase) := h.toObeysStop.noteStep fun c _ => h.mayCall c
  have helapses := elapses_step o g w s
  have hobeys := hnote.elapses helapses
  rcases hres : w.step o g s with ⟨cut | x, w'⟩ <;> rw [hres] at helapses hobeys
  · exact hobeys
  -- the step has been answered, so a stop that came meanwhile has come from within
  refine ⟨hobeys, h.may.imp_right ?_⟩
  rintro ⟨hheeds, hwithin⟩
  refine ⟨hheeds, ?_⟩
  refine stoppedWithin_elapses hheeds helapses ?_
  rcases s with (c | _ | _ | _ | _) | _ | _
  · intro hstop
    rcases stopped_cons.1 hstop with ⟨who, t, heq⟩ | hstop
    · cases heq
    · exact (hwithin hstop).cons
  all_goals exact hwithin

theorem InPlugin.say (h : w.InPlugin g phase) (r : Remark) : (w.say r).InPlugin g phase where
  toObeysStop := h.toObeysStop.say r
  may := by
    refine h.may.imp_right ?_
    rintro ⟨hheeds, hwithin⟩
    refine ⟨hheeds, fun hstop => ?_⟩
    rcases stopped_cons.1 hstop with ⟨who, t, heq⟩ | hstop
    · cases r <;> cases heq
    · exact (hwithin hstop).cons

/-- A plugin may stop the run. -/
theorem InPlugin.stop (h : w.InPlugin g phase) :
    (w.stop (.inside .plugin)).InPlugin g phase where
  toObeysStop := h.toObeysStop.elapses (elapses_stop (fun _ => True) trivial)
  may := by
    refine h.may.imp_right ?_
    rintro ⟨hheeds, hwithin⟩
    refine ⟨hheeds, ?_⟩
    unfold World.stop
    split
    · exact hwithin
    · exact fun _ => ⟨_, _, .head _, .inr rfl⟩

/-- A plugin is free to go on until a step is given up. -/
theorem under_inPlugin (o : Outside σ) (g : Guard) (phase : Option Phase) :
    Under o g (InPlugin g phase) fun _ => ObeysStop (some phase) where
  say r h := h.say r
  stop h := h.stop
  step s _ h heq := by
    have hstep := h.step (o := o) s
    rwa [heq] at hstep
  cut s _ h heq := by
    have hstep := h.step (o := o) s
    rwa [heq] at hstep

/-- A plugin starts only where it may, and leaves the worker calm. -/
theorem calm_plugin (p : Plugin) (c : PluginContext)
    (hphase : phase = some .afterTest ∨ g.heedsStop = true) (h : w.Calm) :
    w.Leads o (p.run g phase c) fun _ w' => w'.Calm := by
  refine (under_inPlugin o g phase).plugin p c (fun _ => h) (fun hgo => ?_)
    (fun _ _ h' => h'.toObeysStop.tell trivial rfl) (fun _ _ h' => h'.tell trivial rfl)
  -- under a guard that heeds the stop the run has not been stopped when the plugin starts
  have hnot (hheeds : g.heedsStop = true) : ¬ Stopped w.history :=
    h.not_stopped (by simpa [hheeds] using hgo)
  refine ⟨h.tell (fun hstop => ?_) rfl, hphase.imp_right fun hheeds => ⟨hheeds, fun hstop => ?_⟩⟩
  · exact hphase.resolve_right fun hheeds => hnot hheeds hstop
  · rcases stopped_cons.1 hstop with ⟨who, t, heq⟩ | hstop
    · cases heq
    · exact absurd hstop (hnot hheeds)

/-! ## Events and traversals -/

/-- A step that the stop has not come before leaves the worker calm. -/
theorem calm_guarded (s : Step) (h : w.Calm) :
    w.Leads o (Worker.guarded (.untilStop none) s) fun _ w' => w'.Calm := by
  rw [leads_guarded]
  split
  · exact h
  rename_i hgo
  have hnot : ¬ Stopped w.history := h.not_stopped (by simpa [Guard.heedsStop] using hgo)
  exact (h.noteStep fun _ _ hstop => absurd hstop hnot).elapses (elapses_step o _ w s)

theorem kept_calm (o : Outside σ) : Kept o (Calm (σ := σ)) where
  say r h := h.say r
  step s h := calm_guarded s h
  occasion _ _ h := h.tell trivial h.underWay_eq
  plugin p c _ h := calm_plugin p c (.inr rfl) h

theorem Calm.extend (h : w.Calm) (d : Duration) : (w.extend d).Calm where
  abides := abides_cons.2 ⟨trivial, h.abides⟩
  coherent := h.coherent.happen fun _ _ heq => by cases heq
  underWay_eq := h.underWay_eq

theorem Calm.pulse (h : w.Calm) : w.pulse.Calm where
  abides := abides_cons.2 ⟨trivial, h.abides⟩
  coherent := h.coherent.happen fun _ _ heq => by cases heq
  underWay_eq := h.underWay_eq

theorem sustained_calm (setup : Setup) (o : Outside σ) : Sustained setup o (Calm (σ := σ)) where
  toKept := kept_calm o
  starts {w s} event parent hstop h := by
    have hstarted : (w.tell (.stage (.started event parent))).Calm :=
      h.tell (h.not_stopped hstop) h.underWay_eq
    exact (kept_calm o).openEvent (fun _ d h' => Calm.extend h' d)
      (fun _ _ _ h' => h'.tell trivial h'.underWay_eq) event parent (Calm.pulse hstarted)
  fails event failure h := h.tell trivial h.underWay_eq
  finishes event element h := (Calm.pulse h).tell trivial h.underWay_eq
  rows cells hstop h := h.tell (h.not_stopped hstop) h.underWay_eq

/-! ## The end of a test -/

theorem Calm.stop (h : w.Calm) (who : Insider) : (w.stop (.inside who)).Calm :=
  h.elapses (elapses_stop (fun _ => True) trivial)

/-- The query for open windows may be made right after the occasion has come. -/
theorem calm_query (g : Guard) (h : w.Calm)
    (hhead : w.history.head? = some (.stage (.occasion { phase := .afterTest }))) :
    w.Leads o (Worker.guarded g (.act (.call .windowHandles))) fun _ w' => w'.Calm := by
  rw [leads_guarded]
  split
  · exact h
  refine (h.noteStep ?_).elapses (elapses_step o _ w _)
  rintro c ⟨⟩ -
  exact .inl ⟨rfl, hhead⟩

theorem calm_fireAfterTest (setup : Setup) (s : Session) (h : w.Calm) :
    w.Leads o (s.fireAfterTest setup) fun _ w' => w'.Calm := by
  have hoccasion : (w.tell (.stage (.occasion { phase := .afterTest }))).Calm :=
    h.tell trivial h.underWay_eq
  rw [Session.leads_fireAfterTest]
  refine (Session.leads_dispatch setup s (fun _ r _ h' => h'.say r) (calm_query _ hoccasion rfl)
    (fun _ p c h' => calm_plugin p c (.inl rfl) h') hoccasion).mono fun ending w' h' => ?_
  cases ending with
  | finished => exact h'
  | timeUp =>
    refine ObeysStop.say ?_ _
    split
    · exact h'
    · exact h'.stop _

theorem calm_dawn (setup : Setup) (calendar : Calendar) (stopAt : Option Duration)
    (outside : σ) : (dawn setup calendar stopAt outside).Calm where
  abides := abides_cons.2 ⟨trivial, abides_nil⟩
  coherent := coherent_dawn setup calendar stopAt outside
  underWay_eq := rfl

end World

variable {σ : Type} {o : Outside σ} {setup : Setup} {calendar : Calendar}
  {stopAt : Option Duration} {events : List Event} {outside : σ} {ended : Ended σ}

theorem calm_of_run (hrun : setup.run o calendar stopAt events outside = some ended) :
    ended.world.Calm := by
  obtain ⟨course⟩ := exists_course hrun
  have hopened := World.keeps_opened (P := World.Calm) (fun r _ h => h.say r)
    (fun helapses h => h.elapses helapses) (World.calm_dawn setup calendar stopAt outside) events
  have hbefore := (World.sustained_calm setup o).main events hopened _ _ course.run_main
  have hafter := World.calm_fireAfterTest setup course.session hbefore _ _ course.run_plugins
  exact course.keeps_end (fun r _ h => h.say r) (fun helapses h => h.elapses helapses) hafter

/-- What comes after a stop, the newest first, given who has made it and what lies before. -/
structure AfterStop (who : Stopper) (past later : List Happening) : Prop where
  /-- No event starts, at any depth. -/
  no_event : ∀ event parent, Happening.stage (.started event parent) ∉ later
  /-- No row begins. -/
  no_row : ∀ cells, Happening.stage (.row cells) ∉ later
  /-- No plugin starts, be it at a phase or called by a script, but at the end of the test. -/
  no_plugin : ∀ name phase, Happening.stage (.pluginStarted name phase) ∈ later →
    phase = some .afterTest
  /-- The browser is not called, but for the query before the plugins at the end of the test and by
  these. Where the stop has not come while the worker waits, because the plugin under way has made
  it or the outside has under this plugin, that plugin alone may call it until its next wait. -/
  no_call : ∀ c since before, later = since ++ .called c :: before →
    (c = .windowHandles ∧
        (before ++ past).head? = some (.stage (.occasion { phase := .afterTest }))) ∨
      underWay (before ++ past) = some (some .afterTest) ∨
      (who = .outside ∨ who = .inside .plugin) ∧
        ∃ phase, underWay past = some phase ∧ underWay (before ++ past) = some phase

/-- **Once a run has been stopped nothing new begins**, whoever stops it and whatever it is stopped
in. -/
theorem afterStop_of_run (hrun : setup.run o calendar stopAt events outside = some ended)
    {who : Stopper} {t : Duration} {past later : List Happening}
    (hstop : ended.world.history = later ++ .mark (.stopped who t) :: past) :
    AfterStop who (.mark (.stopped who t) :: past) later := by
  have hcalm := calm_of_run hrun
  have habides := hcalm.abides
  have honce := hcalm.coherent.2
  rw [hstop] at habides honce
  have hstopped (before : List Happening) : Stopped (before ++ .mark (.stopped who t) :: past) :=
    ⟨who, t, by simp⟩
  have hlaw {h : Happening} (hmem : h ∈ later) : ∃ before, afterStopLaw h before ∧ Stopped before := by
    obtain ⟨since, before, rfl⟩ := List.append_of_mem hmem
    rw [List.append_assoc] at habides
    exact ⟨_, habides _ _ (List.suffix_append since _), hstopped before⟩
  refine ⟨fun event parent hmem => ?_, fun cells hmem => ?_, fun name phase hmem => ?_, ?_⟩
  · obtain ⟨_, hnot, hst⟩ := hlaw hmem
    exact hnot hst
  · obtain ⟨_, hnot, hst⟩ := hlaw hmem
    exact hnot hst
  · obtain ⟨_, hphase, hst⟩ := hlaw hmem
    exact hphase hst
  · rintro c since before rfl
    rw [List.append_assoc] at habides honce
    have hcall := habides _ _ (List.suffix_append since _) (hstopped before)
    have hsuffix : before ++ .mark (.stopped who t) :: past <:+
        since ++ (.called c :: before ++ .mark (.stopped who t) :: past) :=
      (List.suffix_cons _ _).trans (List.suffix_append since _)
    refine hcall.imp_right fun hway => ?_
    rcases hway with hlast | ⟨phase, hphase, hwithin⟩
    · exact .inl hlast
    -- what was not begun for AfterTest was under way before, and stopped the run itself
    rcases underWay_since (habides.suffix hsuffix) ⟨who, t, .head _⟩ hphase with rfl | hpast
    · exact .inl hphase
    · obtain ⟨who', t', hmem, hwho⟩ := hwithin
      -- a run is stopped once only
      obtain rfl : who' = who := (honce.suffix hsuffix).stopper_eq hmem
      exact .inr ⟨hwho, phase, hpast, hphase⟩

/-- Events of which the first one waits. -/
def waitingEvents : List Event :=
  [{ kind := .command .wait, name := "wait",
     children := [{ kind := .command .arg, name := "arg" }] },
   { kind := .command .arg, name := "arg" }]

theorem afterStop_smallRun : ∃ ended,
    Setup.smallRun [] (some (.ofSecs 3)) waitingEvents = some ended ∧
    AfterStop .owner (.mark (.stopped .owner (.ofSecs 3)) :: ended.world.history.drop 9)
      (ended.world.history.take 8) := by
  have hrun : Setup.smallRun [] (some (.ofSecs 3)) waitingEvents =
      some ((Setup.smallRun [] (some (.ofSecs 3)) waitingEvents).get rfl) :=
    (Option.some_get _).symm
  exact ⟨_, hrun, afterStop_of_run hrun rfl⟩

end PageScript
