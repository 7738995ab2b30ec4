import PageScript.Proofs.BrowserLoss
import PageScript.Proofs.Teardown
import PageScript.Proofs.SupervisorLaw

/-!
# What runs come to

A run is completed if none of its events has lost the browser, nobody has stopped it before its
worker was done, and the watchdog has not tripped. It counts as stopped if somebody has asked for
that, its owner, a plugin or the outside; but it also counts as stopped if nobody has, where the
plugins at the end of the test have run out of their time, since the time limit of a run that has not
been stopped before stops the run itself.

Only events heed the loss of the browser. Where the browser is lost in a call between events, the
query for the window in use at the start of a test or the one for open windows before plugins, the
error is dropped, whatever it says, and the run goes on to its own end.
-/

namespace PageScript

/-! ## Who has stopped a run -/

/-- Whoever something tells of as having stopped the run. -/
def Happening.stopper? : Happening → Option Stopper
  | .mark (.stopped who _) => some who
  | _ => none

/-- Whoever has stopped the run. -/
def stoppers (history : List Happening) : List Stopper :=
  history.filterMap Happening.stopper?

/-- Whether a stop is one that somebody has asked for. -/
def Stopper.isRequest : Stopper → Bool
  | .owner | .outside | .inside .plugin => true
  | .watchdog | .inside .timeLimit => false

/-- Somebody has asked for the run to be stopped. -/
def Requested (history : List Happening) : Prop :=
  ∃ who ∈ stoppers history, who.isRequest = true

/-- The run has been stopped since the plugins at the end of the test have run out of their time. -/
def TimedOut (history : List Happening) : Prop :=
  .inside .timeLimit ∈ stoppers history

section Histories

variable {h : Happening} {past history : List Happening}

theorem mem_stoppers {who : Stopper} :
    who ∈ stoppers history ↔ ∃ t, Happening.mark (.stopped who t) ∈ history := by
  unfold stoppers
  rw [List.mem_filterMap]
  constructor
  · rintro ⟨h, hmem, hwho⟩
    unfold Happening.stopper? at hwho
    split at hwho
    · cases hwho
      exact ⟨_, hmem⟩
    · cases hwho
  · rintro ⟨t, hmem⟩
    exact ⟨_, hmem, rfl⟩

/-- A run has been stopped on request, for its time, or by the watchdog. -/
theorem stopped_iff : Stopped history ↔
    Requested history ∨ TimedOut history ∨ .watchdog ∈ stoppers history := by
  constructor
  · rintro ⟨who, t, hmem⟩
    have hwho : who ∈ stoppers history := mem_stoppers.2 ⟨t, hmem⟩
    rcases who with _ | _ | _ | _ | _
    · exact .inl ⟨_, hwho, rfl⟩
    · exact .inr (.inr hwho)
    · exact .inl ⟨_, hwho, rfl⟩
    · exact .inl ⟨_, hwho, rfl⟩
    · exact .inr (.inl hwho)
  · rintro (⟨who, hwho, -⟩ | hwho | hwho) <;> exact ⟨_, mem_stoppers.1 hwho⟩

/-- A run is stopped only once, so there is only one that has stopped it. -/
theorem stopper_unique (habides : Abides stopLaw history) {who who' : Stopper}
    (hwho : who ∈ stoppers history) (hwho' : who' ∈ stoppers history) : who' = who := by
  obtain ⟨t, hmem⟩ := mem_stoppers.1 hwho
  obtain ⟨t', hmem'⟩ := mem_stoppers.1 hwho'
  obtain ⟨later, past, rfl⟩ := List.append_of_mem hmem
  exact habides.stopper_eq hmem'

theorem mem_stoppers_of_suffix {who : Stopper} (hsuffix : past <:+ history)
    (hwho : who ∈ stoppers past) : who ∈ stoppers history := by
  obtain ⟨t, hmem⟩ := mem_stoppers.1 hwho
  exact mem_stoppers.2 ⟨t, hsuffix.subset hmem⟩

/-- Whatever does not stop the run for its time leaves it so. -/
theorem untimed_cons (hne : h.stopper? ≠ some (.inside .timeLimit)) (hpast : ¬ TimedOut past) :
    ¬ TimedOut (h :: past) := by
  intro hmem
  unfold TimedOut stoppers at hmem
  cases hwho : h.stopper? with
  | none => exact hpast (by rwa [List.filterMap_cons_none hwho] at hmem)
  | some who =>
    rw [List.filterMap_cons_some hwho] at hmem
    rcases List.mem_cons.1 hmem with rfl | hmem
    · exact hne hwho
    · exact hpast hmem

end Histories

namespace World

variable {σ : Type} {o : Outside σ} {setup : Setup} {ok : Stopper → Prop} {g : Guard}
  {w w' : World σ}

theorem Elapses.untimed (h : w.Elapses ok w') (hok : ∀ who, ok who → who ≠ .inside .timeLimit)
    (hw : ¬ TimedOut w.history) : ¬ TimedOut w'.history := by
  refine h.adds.keeps (P := fun past => ¬ TimedOut past) (fun _ _ hambient => ?_) hw
  refine untimed_cons ?_
  cases hambient with
  | stopped t hwho => exact fun heq => hok _ hwho (Option.some.inj heq)
  | _ => exact fun heq => by cases heq

theorem untimed_step (s : Step) (h : ¬ TimedOut w.history) :
    ¬ TimedOut (w.step o g s).2.history := by
  refine (elapses_step o g w s).untimed (fun _ hadmits => hadmits.2 _) ?_
  rcases s with (_ | _ | _ | _ | _) | _ | _
  · exact untimed_cons (fun heq => by cases heq) h
  all_goals exact h

theorem untimed_say (r : Remark) (h : ¬ TimedOut w.history) : ¬ TimedOut (w.say r).history :=
  untimed_cons (by cases r <;> exact fun heq => by cases heq) h

theorem untimed_tell (stage : Stage) (h : ¬ TimedOut w.history) :
    ¬ TimedOut (w.tell (.stage stage)).history :=
  untimed_cons (fun heq => by cases heq) h

theorem untimed_guarded (s : Step) (h : ¬ TimedOut w.history) :
    w.Leads o (Worker.guarded g s) fun _ w' => ¬ TimedOut w'.history := by
  rw [leads_guarded]
  split
  · exact h
  · exact untimed_step s h

theorem untimed_plugin {phase : Option Phase} (p : Plugin) (c : PluginContext)
    (h : ¬ TimedOut w.history) : w.Leads o (p.run g phase c) fun _ w' => ¬ TimedOut w'.history := by
  have hunder : Under o g (fun w' => ¬ TimedOut w'.history) fun _ w' => ¬ TimedOut w'.history :=
    .of_step (fun r h' => untimed_say r h')
      (fun h' => (elapses_stop (· = .inside .plugin) rfl).untimed (by simp) h')
      (fun s h' => untimed_step s h')
  exact hunder.plugin p c (fun _ => h) (fun _ => untimed_tell _ h)
    (fun _ _ h' => untimed_tell _ h') (fun _ _ h' => untimed_tell _ h')

theorem kept_untimed (o : Outside σ) : Kept o fun w => ¬ TimedOut w.history where
  say r h := untimed_say r h
  step s h := untimed_guarded s h
  occasion _ _ h := untimed_tell _ h
  plugin p c _ h := untimed_plugin p c h

/-- Before the end of a test nothing is stopped for its time. -/
theorem sustained_untimed (setup : Setup) (o : Outside σ) :
    Sustained setup o fun w => ¬ TimedOut w.history where
  toKept := kept_untimed o
  starts {w s} event parent _ h := by
    have hextend (w : World σ) (d : Duration) (h' : ¬ TimedOut w.history) :
        ¬ TimedOut (w.extend d).history := untimed_cons (fun heq => by cases heq) h'
    exact (kept_untimed o).openEvent hextend (fun _ _ _ h' => untimed_tell _ h') event parent
      (untimed_cons (fun heq => by cases heq) (untimed_tell _ h))
  fails _ _ h := untimed_tell _ h
  finishes _ _ h := untimed_tell _ (untimed_cons (fun heq => by cases heq) h)
  rows _ _ h := untimed_tell _ h

/-! ## Plugins that run out of time -/

theorem timeUp_guarded (s : Step) :
    w.Leads o (Worker.guarded g s) fun r w' => r = .error .timeUp → w'.Cuts g .timeUp := by
  rw [leads_guarded]
  split
  · exact fun heq => by cases heq
  · exact fun heq => cuts_step (Prod.ext heq rfl)

theorem timeUp_plugin {phase : Option Phase} (p : Plugin) (c : PluginContext) :
    w.Leads o (p.run g phase c) fun r w' => r = .error .timeUp → w'.Cuts g .timeUp := by
  have hunder : Under o g (fun _ => True) fun cut w' => w'.Cuts g cut :=
    ⟨fun _ _ => trivial, fun _ => trivial, fun _ _ _ _ => trivial, fun _ _ _ heq => cuts_step heq⟩
  refine hunder.plugin p c (fun _ heq => ?_) (fun _ => trivial) (fun _ _ _ heq => ?_)
    fun w' cut hcuts heq => ?_
  · cases heq
  · cases heq
  · cases heq
    exact hcuts

/-- A dispatch runs out of time only at the limit of its guard. -/
theorem timeUp_dispatch (s : Session) (occasion : Occasion) :
    w.Leads o (s.dispatch setup g occasion) fun r w' => r = .timeUp → w'.Cuts g .timeUp := by
  have hplugins (plugins : List Plugin) (w : World σ) :
      w.Leads o (s.runPlugins setup g occasion plugins) fun r w' => r = .timeUp →
        w'.Cuts g .timeUp := by
    induction plugins generalizing w with
    | nil => exact leads_pure _ |>.2 fun heq => by cases heq
    | cons p ps ih =>
      rw [Session.runPlugins, leads_bind, leads_say, leads_bind]
      refine (timeUp_plugin p _).mono fun result w' h' => ?_
      rcases result with (_ | _) | result
      · exact leads_pure _ |>.2 fun heq => by cases heq
      · exact leads_pure _ |>.2 fun _ => h' rfl
      · rw [leads_bind]
        exact fun _ w'' _ => ih w''
  unfold Session.dispatch
  split
  · exact leads_pure _ |>.2 fun heq => by cases heq
  rw [leads_bind]
  refine (timeUp_guarded _).mono fun result w' h' => ?_
  have hskip : w'.Leads o Session.skipPlugins fun r w' => r = .timeUp → w'.Cuts g .timeUp := by
    rw [Session.skipPlugins, leads_bind, leads_say, leads_pure]
    exact fun heq => by cases heq
  rcases result with (_ | _) | _ | handles
  · exact hskip
  · exact leads_pure _ |>.2 fun _ => h' rfl
  · exact hskip
  · dsimp only
    split
    · exact hplugins _ w'
    · exact hskip

/-- At the end of a test a run is stopped for its time only if it has not been stopped before and all
that the watchdog allows has passed. -/
theorem timedOut_fireAfterTest (s : Session) (h : ¬ TimedOut w.history) :
    w.Leads o (s.fireAfterTest setup) fun _ w' => TimedOut w'.history →
      w.isStopped = false ∧ Duration.after w.now setup.watchdogTimeout ≤ w'.now := by
  rw [Session.leads_fireAfterTest]
  have hopened := untimed_tell (.occasion { phase := .afterTest }) h
  have hdispatch : (w.tell (.stage (.occasion { phase := .afterTest }))).Leads o
      (s.dispatch setup (Session.lastGuard w.isStopped (w.limit setup.watchdogTimeout))
        { phase := .afterTest }) fun _ w' => ¬ TimedOut w'.history :=
    Session.leads_dispatch (P := fun w' => ¬ TimedOut w'.history) setup s
      (fun _ r _ h' => untimed_say r h') (untimed_guarded _ hopened)
      (fun _ p c h' => untimed_plugin p c h') hopened
  refine (hdispatch.and (timeUp_dispatch s _)).mono ?_
  rintro ending w' ⟨huntimed, htime⟩
  cases ending with
  | finished => exact fun hmem => absurd hmem huntimed
  | timeUp =>
    intro hmem
    obtain ⟨l, hl, hdue⟩ := htime rfl
    cases hstop : w.isStopped with
    | true =>
      rw [hstop, if_pos rfl] at hmem
      exact absurd hmem (untimed_say _ huntimed)
    | false =>
      rw [hstop] at hl
      cases hl
      refine ⟨rfl, ?_⟩
      rw [if_neg Bool.false_ne_true, say_eq, now_tell, now_stop]
      exact hdue

end World

/-! ## Outcomes -/

section Runs

variable {σ : Type} {o : Outside σ} {setup : Setup} {calendar : Calendar}
  {stopAt : Option Duration} {events : List Event} {outside : σ} {ended : Ended σ}

namespace Course

theorem coherent_after (course : Course setup o calendar stopAt events outside ended) :
    course.after.Coherent := by
  have hopened := World.coherent_opened setup calendar stopAt events outside
  exact (hopened.leads _ _ _ course.run_main).leads _ _ _ course.run_plugins

theorem untimed_before (course : Course setup o calendar stopAt events outside ended) :
    ¬ TimedOut course.before.history := by
  have hdawn : ¬ TimedOut (World.dawn setup calendar stopAt outside).history :=
    untimed_cons (fun heq => by cases heq) fun hmem => by cases hmem
  have hstart := (World.elapses_start setup calendar stopAt outside).untimed
    (by rintro _ rfl heq; cases heq) hdawn
  exact (World.sustained_untimed setup o).main events
    (World.untimed_say _ (World.untimed_say _ hstart)) _ _ course.run_main

/-- A run that no watchdog has stopped comes to what its worker has come to. -/
theorem outcome_untripped (course : Course setup o calendar stopAt events outside ended)
    (h : ended.world.watchdog.tripped = false) :
    ended.outcome = course.after.outcome course.result := by
  rw [course.outcome_eq, World.verdict, if_neg (by rw [h]; decide)]

theorem outcome_tripped (course : Course setup o calendar stopAt events outside ended)
    (h : ended.world.watchdog.tripped = true) : ended.outcome =
      .failed (Error.watchdogExpired (Duration.secs ended.world.watchdog.timeout)).message := by
  rw [course.outcome_eq, World.verdict, if_pos h]

/-- A run that has not failed has lost no browser, and tells whether it has been stopped before its
worker was done. -/
theorem outcome_eq_iff (course : Course setup o calendar stopAt events outside ended)
    {outcome : Outcome} (hne : ∀ reason, outcome ≠ .failed reason) :
    ended.outcome = outcome ↔ ¬ Lost ended.world.history ∧
      ended.world.watchdog.tripped = false ∧
      outcome = if course.after.isStopped then .stopped else .completed := by
  rw [← course.result_eq_ok_iff]
  cases htripped : ended.world.watchdog.tripped with
  | true =>
    rw [course.outcome_tripped htripped]
    exact iff_of_false (fun heq => hne _ heq.symm) fun h => by cases h.2.1
  | false =>
    rw [course.outcome_untripped htripped]
    cases course.result with
    | ok _ => exact ⟨fun heq => ⟨rfl, rfl, heq.symm⟩, fun h => h.2.2.symm⟩
    | error e => exact iff_of_false (fun heq => hne _ heq.symm) fun h => by cases h.1

theorem outcome_eq_stopped_iff_asked
    (course : Course setup o calendar stopAt events outside ended)
    (hwatched : ended.world.Watched setup.watchdogTimeout setup.watchdogPoll) :
    ended.outcome = .stopped ↔ ¬ Lost ended.world.history ∧
      (Requested course.after.history ∨ TimedOut course.after.history) := by
  have hsuffix := course.later_end.history
  have htripped : ended.world.watchdog.tripped = true ↔ .watchdog ∈ stoppers ended.world.history :=
    hwatched.tripped_iff.trans mem_stoppers.symm
  have hafter : Outcome.stopped = (if course.after.isStopped then .stopped else .completed) ↔
      Stopped course.after.history := by
    rw [← course.coherent_after.1]
    cases course.after.isStopped <;> decide
  rw [course.outcome_eq_iff (by simp), hafter, ← Bool.not_eq_true, htripped, stopped_iff]
  refine and_congr_right fun _ => ⟨?_, fun hstop => ⟨fun hwatchdog => ?_, hstop.imp_right .inl⟩⟩
  · rintro ⟨hnot, hrequest | htime | hwatchdog⟩
    · exact .inl hrequest
    · exact .inr htime
    · exact absurd (mem_stoppers_of_suffix hsuffix hwatchdog) hnot
  · -- the one who has stopped the run is not the watchdog
    rcases hstop with ⟨who, hwho, hrequest⟩ | htime
    · cases stopper_unique hwatched.coherent.2 hwatchdog (mem_stoppers_of_suffix hsuffix hwho)
      cases hrequest
    · cases stopper_unique hwatched.coherent.2 hwatchdog (mem_stoppers_of_suffix hsuffix htime)

end Course

/-- **A run counts as stopped exactly if none of its events has lost the browser and it has been
stopped before its worker was done, on request or for its time**; and it is stopped for its time,
which nobody has asked for, only where the plugins at the end of the test take at least the time that
the watchdog allows. -/
theorem stopped_of_run (hpoll : 0 < setup.watchdogPoll)
    (hrun : setup.run o calendar stopAt events outside = some ended) :
    Nonempty (Course setup o calendar stopAt events outside ended) ∧
    ∀ course : Course setup o calendar stopAt events outside ended,
      (ended.outcome = .stopped ↔ ¬ Lost ended.world.history ∧
        (Requested course.after.history ∨ TimedOut course.after.history)) ∧
      (TimedOut course.after.history → ¬ Requested ended.world.history ∧
        course.before.isStopped = false ∧
        Duration.after course.before.now setup.watchdogTimeout ≤ course.after.now) := by
  have hwatched := watched_of_run hpoll hrun
  refine ⟨exists_course hrun, ?_⟩
  intro course
  refine ⟨course.outcome_eq_stopped_iff_asked hwatched, ?_⟩
  intro htime
  refine ⟨?_, ?_⟩
  · -- the run has been stopped once only, and that was for its time
    rintro ⟨who, hwho, hrequest⟩
    have htime := mem_stoppers_of_suffix course.later_end.history htime
    cases stopper_unique hwatched.coherent.2 hwho htime
    cases hrequest
  · exact World.timedOut_fireAfterTest course.session course.untimed_before _ _ course.run_plugins
      htime

/-- A stop that the owner asks for while the plugin at the end of the test sleeps. -/
theorem stopped_sleepyRun : 0 < Setup.sleepy.watchdogPoll ∧
    ∃ ended, Setup.sleepyRun (some (.ofSecs 1)) = some ended ∧ ended.outcome = .stopped ∧
    ∃ course : Course .sleepy .oneWindow ⟨2020, 1, 1, 0, 0, 0⟩ (some (.ofSecs 1)) [] () ended,
      Requested course.after.history ∨ TimedOut course.after.history := by
  obtain ⟨ended, hrun, houtcome⟩ : ∃ ended, Setup.sleepyRun (some (.ofSecs 1)) = some ended ∧
      ended.outcome = .stopped := Option.map_eq_some_iff.1 (by decide +kernel)
  obtain ⟨⟨course⟩, hstopped⟩ := stopped_of_run (by decide) hrun
  exact ⟨by decide, ended, hrun, houtcome, course, ((hstopped course).1.1 houtcome).2⟩

/-- A run that nobody asks to stop counts as stopped all the same, since its plugin at the end of the
test sleeps for too long. -/
theorem stopped_unasked : ∃ ended,
    Setup.smallRun [.sleeper .afterTest (.ofSecs 20)] none [] = some ended ∧
    ended.outcome = .stopped ∧ ¬ Requested ended.world.history := by
  obtain ⟨ended, hrun, hshown⟩ := Option.map_eq_some_iff.1 (by decide +kernel :
    (Setup.smallRun [.sleeper .afterTest (.ofSecs 20)] none []).map
      (fun ended => (ended.outcome, stoppers ended.world.history)) =
        some (.stopped, [.inside .timeLimit]))
  obtain ⟨houtcome, hstoppers⟩ := Prod.mk.inj hshown
  refine ⟨ended, hrun, houtcome, ?_⟩
  rw [Requested, hstoppers]
  decide

/-! ## Losses between events -/

/-- Errors of the browser between events are dropped, whatever they say: the window in use stays
unknown, and the plugins of an occasion are left out as if the window in use had been closed. -/
structure DropsErrors (setup : Setup) (o : Outside σ) : Prop where
  noteWindow : ∀ {s : Session} {w w' : World σ} e,
    World.run o (Worker.call (.untilStop none) .currentWindow) w = some (.ok (.error e), w') →
      World.run o (Journey.noteWindow s) w = some (((), s), w')
  dispatch : ∀ {s : Session} {w w' : World σ} g occasion e, s.registry ≠ [] →
    World.run o (Worker.call g .windowHandles) w = some (.ok (.error e), w') →
      World.run o (s.dispatch setup g occasion) w =
        some (.finished, w'.say (.log "Browser window closed. Skipping plugin execution."))

theorem dropsErrors (setup : Setup) (o : Outside σ) : DropsErrors setup o where
  noteWindow {s w w'} e h := by
    change World.run o ((Worker.call (.untilStop none) .currentWindow >>= fun r => pure (r, s)) >>=
      fun p => _) w = _
    rw [World.run_bind, World.run_bind, h]
    rfl
  dispatch {s w w'} g occasion e hne h := by
    rw [Session.dispatch, if_neg (by simpa using hne), World.run_bind, h]
    rfl

/-- **A run is completed exactly if none of its events has lost the browser, nobody has stopped it
before its worker was done and the watchdog has not tripped.** That the browser is lost in a call
between events plays no part in it. -/
theorem completed_of_run (hrun : setup.run o calendar stopAt events outside = some ended) :
    DropsErrors setup o ∧ Nonempty (Course setup o calendar stopAt events outside ended) ∧
    ∀ course : Course setup o calendar stopAt events outside ended,
      (ended.outcome = .completed ↔ ¬ Lost ended.world.history ∧
        ended.world.watchdog.tripped = false ∧ ¬ Stopped course.after.history) := by
  refine ⟨dropsErrors setup o, exists_course hrun, fun course => ?_⟩
  rw [course.outcome_eq_iff (by simp), ← course.coherent_after.1]
  cases course.after.isStopped <;> simp

/-- An outside whose browser is lost from the start. -/
def Outside.lost : Outside Unit
  | .call _, s => .answer s (.error (.sessionLost "gone"))
  | _, s => { start := s, ending := none }

/-- A run without events whose browser is lost from the start. -/
def Setup.lostRun : Option (Ended Unit) :=
  sleepy.run .lost ⟨2020, 1, 1, 0, 0, 0⟩ none [] ()

theorem completed_lostRun : ∃ ended, Setup.lostRun = some ended ∧
    ∃ course : Course .sleepy .lost ⟨2020, 1, 1, 0, 0, 0⟩ none [] () ended,
      ended.outcome = .completed ∧ ¬ Lost ended.world.history ∧
        ended.world.watchdog.tripped = false ∧ ¬ Stopped course.after.history := by
  obtain ⟨ended, hrun, houtcome⟩ : ∃ ended, Setup.lostRun = some ended ∧
      ended.outcome = .completed := Option.map_eq_some_iff.1 (by decide +kernel)
  obtain ⟨-, ⟨course⟩, hcompleted⟩ := completed_of_run hrun
  exact ⟨ended, hrun, course, houtcome, (hcompleted course).1 houtcome⟩

/-- The browser answers each call of this run that it is lost, and the plugin at the end of the test
is left out for that; but the run is completed. -/
theorem completed_despite_loss :
    (∀ c s, (Outside.lost (.call c) s).ending = some (.error (.sessionLost "gone"), s)) ∧
    ∃ ended, Setup.lostRun = some ended ∧ ended.outcome = .completed ∧
      Happening.called .currentWindow ∈ ended.world.history ∧
      Happening.called .windowHandles ∈ ended.world.history ∧
      turns ended.world.history = [] := by
  have hrun : Setup.lostRun = some (Setup.lostRun.get rfl) := (Option.some_get _).symm
  exact ⟨fun _ _ => rfl, _, hrun, rfl, List.mem_of_getElem? (i := 6) rfl,
    List.mem_of_getElem? (i := 1) rfl, rfl⟩

end Runs
end PageScript
