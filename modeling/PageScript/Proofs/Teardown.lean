import PageScript.Proofs.HistoryAdditions
import PageScript.Proofs.GivenUpSteps
import PageScript.Proofs.TraversalInvariants

/-!
# The plugins at the end of a test

However the events of a run have ended, the plugins at the end of the test get their turns, if the
window in use is found: each of them starts and comes to its end, once, in the order in which they
were registered. Only three things can keep a plugin from that: all of it, from the query for open
windows on, takes as long as the watchdog allows; or a run that was not stopped before is stopped
meanwhile, by its owner or by the watchdog. A run that was stopped before the plugins began is not
disturbed by the stop any more.

That a plugin is given up has one of these reasons, and a reason does not go away. So if none holds
at the end, no plugin has been given up.
-/

namespace PageScript

/-- What a plugin at the end of a test does. -/
inductive Turn where
  | started (plugin : String)
  /-- Comes to its end. -/
  | ended (plugin : String)
  /-- Is given up. -/
  | left (plugin : String)
  deriving DecidableEq, Repr

/-- What the plugins at the end of a test have done, in order. -/
def turns : List Happening → List Turn
  | [] => []
  | .stage (.pluginStarted p (some .afterTest)) :: past => turns past ++ [.started p]
  | .stage (.pluginEnded p (some .afterTest)) :: past => turns past ++ [.ended p]
  | .stage (.pluginLeft p (some .afterTest)) :: past => turns past ++ [.left p]
  | _ :: past => turns past

/-- A plugin starts and comes to its end. -/
def Plugin.turn (p : Plugin) : List Turn := [.started p.name, .ended p.name]

section Histories

variable {h : Happening} {past : List Happening}

theorem turns_passing (hpassing : h.Passing) : turns (h :: past) = turns past := by
  rw [turns] <;> rintro _ rfl <;> cases hpassing

theorem turns_aside (haside : h.Aside) : turns (h :: past) = turns past := by
  rcases haside with hpassing | _ | ⟨hphase, hplugin⟩
  · exact turns_passing hpassing
  · rfl
  · cases hplugin <;> rw [turns] <;> rintro _ heq <;> cases heq <;> exact absurd rfl hphase

end Histories

section Worlds

variable {σ α β : Type} {o : Outside σ} {g : Guard} {setup : Setup} {w w' : World σ}

theorem World.Adds.turns_eq (h : w.Adds Happening.Passing w') :
    turns w'.history = turns w.history :=
  h.keeps (P := fun past => turns past = turns w.history)
    (fun _ _ hpassing hpast => (turns_passing hpassing).trans hpast) rfl

/-- What comes after some work may count on it, if nothing has been given up by the end. -/
theorem leads_bind_spared {p : Worker β} {f : β → Worker α} {R : β → World σ → Prop}
    {Q : α → World σ → Prop} (h : w.Leads o p fun b w' => w'.Spares g → R b w')
    (hnext : ∀ b w', R b w' → w'.Leads o (f b) fun a w'' => w''.Spares g → Q a w'') :
    w.Leads o (p >>= f) fun a w' => w'.Spares g → Q a w' := by
  rw [World.leads_bind]
  refine h.mono fun b w' hb => ?_
  -- what is a reason to give up work after the first part still is one at the end
  by_cases hspares : w'.Spares g
  · exact hnext b w' (hb hspares)
  · exact (World.leads_later (f b)).mono fun a w'' hlater hspares' =>
      absurd (hspares'.of_later hlater) hspares

theorem kept_turns (o : Outside σ) : Kept o fun w => turns w.history = [] :=
  World.kept_of_asides (P := fun past => turns past = [])
    fun _ _ haside h => (turns_aside haside).trans h

/-- Before the end of a test none of its plugins has a turn. -/
theorem sustained_turns (setup : Setup) (o : Outside σ) :
    Sustained setup o fun w => turns w.history = [] where
  toKept := kept_turns o
  starts {w s} event parent _ h := by
    have hstarted : turns (w.tell (.stage (.started event parent))).pulse.history = [] := h
    exact (kept_turns o).openEvent (fun _ _ h' => h') (fun _ _ _ h' => h') event parent hstarted
  fails _ _ h := h
  finishes _ _ h := h
  rows _ _ h := h

/-! ## Plugins one after another -/

/-- A plugin that is not given up has its turn. -/
theorem turns_plugin (p : Plugin) (c : PluginContext) :
    w.Leads o (p.run g (some .afterTest) c) fun r w' => w'.Spares g →
      (∃ x, r = .ok x) ∧ turns w'.history = turns w.history ++ p.turn := by
  have hunder : Under o g (fun w' => turns w'.history = turns w.history ++ [.started p.name])
      fun _ w' => ¬ w'.Spares g := {
    say := fun r h => (World.adds_say _ r).turns_eq.trans h
    stop := fun h => (World.adds_passing_stop _ _).turns_eq.trans h
    step := fun s x h heq => by
      have hturns := (World.adds_step o g _ s).turns_eq.trans h
      rwa [heq] at hturns
    cut := fun s cut _ heq hspares => hspares.not_cuts _ (World.cuts_step heq) }
  refine hunder.plugin p c (fun hcut hspares => ?_) (fun _ => rfl) (fun w' x h _ => ⟨⟨x, rfl⟩, ?_⟩)
    (fun w' cut h hspares => absurd (hspares.of_later (World.later_tell w' _)) h)
  · rw [Bool.and_eq_true] at hcut
    rw [hspares.stopped hcut.1] at hcut
    cases hcut.2
  · change turns w'.history ++ [.ended p.name] = _
    rw [h, Plugin.turn, List.append_assoc]
    rfl

/-- Plugins have their turns one after another. -/
theorem turns_runPlugins (s : Session) (plugins : List Plugin) :
    w.Leads o (s.runPlugins setup g { phase := .afterTest } plugins) fun r w' => w'.Spares g →
      r = .finished ∧ turns w'.history = turns w.history ++ plugins.flatMap Plugin.turn := by
  induction plugins generalizing w with
  | nil => exact World.leads_pure _ |>.2 fun _ => ⟨rfl, (List.append_nil _).symm⟩
  | cons p ps ih =>
    rw [Session.runPlugins, World.leads_bind, World.leads_say]
    refine leads_bind_spared (turns_plugin p _) ?_
    rintro _ w₁ ⟨⟨result, rfl⟩, hturn⟩
    have htold : w₁.Leads o (Session.tellResult p result) fun _ w' =>
        turns w'.history = turns w.history ++ p.turn := by
      cases result with
      | ok _ => exact World.leads_pure _ |>.2 hturn
      | error e => exact World.leads_say _ |>.2 hturn
    -- a plugin that fails is told of, and the next one has its turn all the same
    rw [World.leads_bind]
    refine htold.mono fun _ w₂ htold => ih.mono fun r w' h hspares => ?_
    obtain ⟨hfinished, hturns⟩ := h hspares
    rw [hturns, htold, List.flatMap_cons, List.append_assoc]
    exact ⟨hfinished, rfl⟩

end Worlds

/-! ## The end of a test -/

/-- Whether the query for open windows finds the window in use, as the plugins at the end of a test
need it. -/
def Session.findsWindow {σ : Type} (s : Session) (setup : Setup) (o : Outside σ) (w : World σ) :
    Bool :=
  let guard := lastGuard w.isStopped (w.limit setup.watchdogTimeout)
  match World.run o (Worker.call guard .windowHandles)
    (w.tell (.stage (.occasion { phase := .afterTest }))) with
  | some (.ok (.ok handles), _) => s.hasWindow handles
  | _ => false

section Runs

variable {σ : Type} {o : Outside σ} {setup : Setup} {w : World σ} {s : Session}

theorem turns_dispatch {g : Guard} {handles : List String} {w₁ : World σ}
    (hquery : World.run o (Worker.call g .windowHandles) w = some (.ok (.ok handles), w₁))
    (hwindow : s.hasWindow handles = true) :
    w.Leads o (s.dispatch setup g { phase := .afterTest }) fun r w' => w'.Spares g →
      r = .finished ∧ turns w'.history = turns w.history ++
        (Registration.accepting s.registry .afterTest none).flatMap Plugin.turn := by
  unfold Session.dispatch
  split
  · rename_i hempty
    rw [List.isEmpty_iff.1 hempty]
    exact World.leads_pure _ |>.2 fun _ => ⟨rfl, (List.append_nil _).symm⟩
  rw [World.leads_bind]
  intro result w' hres
  rw [hquery] at hres
  cases hres
  have hasked : turns w₁.history = turns w.history :=
    (World.adds_guarded g (.act (.call .windowHandles)) _ _ hquery).turns_eq
  dsimp only
  rw [if_pos hwindow, ← hasked]
  exact turns_runPlugins s _

theorem turns_fireAfterTest (hwindow : s.findsWindow setup o w = true) :
    w.Leads o (s.fireAfterTest setup) fun _ w' =>
      w'.Spares (Session.lastGuard w.isStopped (w.limit setup.watchdogTimeout)) →
      turns w'.history = turns w.history ++
        (Registration.accepting s.registry .afterTest none).flatMap Plugin.turn := by
  unfold Session.findsWindow at hwindow
  dsimp only at hwindow
  split at hwindow
  · rename_i handles w₁ hquery
    rw [Session.fireAfterTest, World.leads_bind, World.leads_isStopped, World.leads_bind,
      World.leads_tell, World.leads_bind, World.leads_limit]
    refine leads_bind_spared (turns_dispatch hquery hwindow) ?_
    rintro _ w₂ ⟨rfl, hturns⟩
    exact World.leads_pure _ |>.2 fun _ => hturns
  · cases hwindow

theorem accepting_afterTest (registry : List Registration) :
    Registration.accepting registry .afterTest none =
      (registry.filter fun r => r.matcher.phase == .afterTest).map (·.plugin) := by
  simp [Registration.accepting, Matcher.accepts, Phase.isTestScoped]

variable {calendar : Calendar} {stopAt : Option Duration} {events : List Event} {outside : σ}
  {ended : Ended σ}

/-- Nothing keeps the plugins at the end of a test from their turns. -/
structure Course.Unhindered (course : Course setup o calendar stopAt events outside ended) :
    Prop where
  /-- The window in use is found. -/
  window : course.session.findsWindow setup o course.before = true
  /-- The query for it and the plugins together take less time than the watchdog allows. -/
  in_time : course.after.now < Duration.after course.before.now setup.watchdogTimeout
  /-- A run that has not been stopped before is not stopped meanwhile. -/
  stopped : course.before.isStopped = true ∨ course.after.isStopped = false

theorem Course.Unhindered.spares {course : Course setup o calendar stopAt events outside ended}
    (h : course.Unhindered) : course.after.Spares
      (Session.lastGuard course.before.isStopped (course.before.limit setup.watchdogTimeout)) := by
  unfold Session.lastGuard
  split
  · exact ⟨⟨_, rfl, h.in_time⟩, fun hheeds => by cases hheeds⟩
  · rename_i hstop
    exact ⟨⟨_, rfl, h.in_time⟩, fun _ => h.stopped.resolve_left hstop⟩

/-- **Every plugin at the end of a test has its turn**, in the order of registration and once,
whatever has ended the events, if nothing keeps it from that. -/
theorem turns_of_run (hrun : setup.run o calendar stopAt events outside = some ended) :
    Nonempty (Course setup o calendar stopAt events outside ended) ∧
    ∀ course : Course setup o calendar stopAt events outside ended, course.Unhindered →
      turns ended.world.history =
        (course.session.registry.filter fun r => r.matcher.phase == .afterTest).flatMap
          (·.plugin.turn) := by
  refine ⟨exists_course hrun, fun course h => ?_⟩
  have hopened : turns (World.opened setup calendar stopAt events outside).history = [] :=
    (adds_opened setup calendar stopAt events outside).turns_eq
  have hbefore : turns course.before.history = [] :=
    (sustained_turns setup o).main events hopened _ _ course.run_main
  have hafter := turns_fireAfterTest h.window _ _ course.run_plugins h.spares
  rw [course.adds_end.turns_eq, hafter, hbefore, List.nil_append, accepting_afterTest,
    List.flatMap_map]

/-- A plugin that sleeps, and does nothing else. -/
def Configured.sleeper (phase : Phase) (d : Duration) : Configured where
  registration := {
    matcher := { phase }
    plugin := {
      name := "sleeper"
      execute := fun _ => do
        Task.step (.sleep d)
        return .ok () } }

/-- The settings of a run whose plugin sleeps for five seconds at the end of the test. -/
def Setup.sleepy : Setup := small [.sleeper .afterTest (.ofSecs 5)]

/-- A run without events whose plugin sleeps at the end of the test. -/
def Setup.sleepyRun (stopAt : Option Duration) : Option (Ended Unit) :=
  sleepy.run .oneWindow ⟨2020, 1, 1, 0, 0, 0⟩ stopAt [] ()

/-- A stop that comes before the plugin begins does not keep it from its turn. -/
theorem turns_sleepyRun : ∃ ended, Setup.sleepyRun (some 0) = some ended ∧
    ended.outcome = .stopped ∧
    ∃ course : Course .sleepy .oneWindow ⟨2020, 1, 1, 0, 0, 0⟩ (some 0) [] () ended,
      course.Unhindered ∧ turns ended.world.history =
        (course.session.registry.filter fun r => r.matcher.phase == .afterTest).flatMap
          (·.plugin.turn) := by
  obtain ⟨ended, hrun, houtcome⟩ : ∃ ended, Setup.sleepyRun (some 0) = some ended ∧
      ended.outcome = .stopped := Option.map_eq_some_iff.1 (by decide +kernel)
  obtain ⟨⟨course⟩, hturns⟩ := turns_of_run hrun
  have hbefore : (World.run .oneWindow (Journey.main .sleepy [] (Setup.sleepy.session
        ⟨2020, 1, 1, 0, 0, 0⟩)) (World.opened .sleepy ⟨2020, 1, 1, 0, 0, 0⟩ (some 0) [] ())).map
      (fun x => (x.1.2.findsWindow .sleepy .oneWindow x.2, x.2.isStopped)) = some (true, true) := by
    decide +kernel
  have hafter : (World.run .oneWindow (Journey.main .sleepy [] (Setup.sleepy.session
        ⟨2020, 1, 1, 0, 0, 0⟩)) (World.opened .sleepy ⟨2020, 1, 1, 0, 0, 0⟩ (some 0) [] ())).bind
      (fun x => (World.run .oneWindow (x.1.2.fireAfterTest .sleepy) x.2).map fun y =>
        decide (y.2.now < Duration.after x.2.now Setup.sleepy.watchdogTimeout)) = some true := by
    decide +kernel
  rw [course.run_main, Option.map_some, Option.some.injEq, Prod.mk.injEq] at hbefore
  rw [course.run_main, Option.bind_some, course.run_plugins, Option.map_some, Option.some.injEq,
    decide_eq_true_eq] at hafter
  have hunhindered : course.Unhindered := ⟨hbefore.1, hafter, .inl hbefore.2⟩
  exact ⟨ended, hrun, houtcome, course, hunhindered, hturns course hunhindered⟩

/-- An outside with one window, which takes four seconds to say so. -/
def Outside.slowWindow : Outside Unit
  | .call .windowHandles, s => .after [.rest (.ofSecs 4)] (.answer s (.ok ["main"]))
  | a, s => oneWindow a s

/-- A plugin that takes less time than the watchdog allows is given up all the same if the owner
stops the run meanwhile, if the watchdog does, which has been waiting from before, or if the query
for open windows has taken too much of the time. -/
theorem turns_hindered : Duration.ofSecs 5 < Setup.sleepy.watchdogTimeout ∧
    (∃ ended, Setup.sleepyRun none = some ended ∧
      turns ended.world.history = [.started "sleeper", .ended "sleeper"]) ∧
    (∃ ended, Setup.sleepyRun (some (.ofSecs 1)) = some ended ∧
      turns ended.world.history = [.started "sleeper", .left "sleeper"]) ∧
    (∃ ended, Setup.smallRun [.sleeper .beforeTest (.ofSecs 4), .sleeper .afterTest (.ofSecs 5)]
        none [] = some ended ∧
      turns ended.world.history = [.started "sleeper", .left "sleeper"]) ∧
    ∃ ended, Setup.sleepy.run .slowWindow ⟨2020, 1, 1, 0, 0, 0⟩ (some 0) [] () = some ended ∧
      turns ended.world.history = [.started "sleeper", .left "sleeper"] := by
  refine ⟨by decide, ?_, ?_, ?_, ?_⟩ <;> exact Option.map_eq_some_iff.1 (by decide +kernel)

end Runs
end PageScript
