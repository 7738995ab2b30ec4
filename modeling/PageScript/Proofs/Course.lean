import PageScript.Proofs.Leads

/-!
# The course of a run

A run that comes to an end has gone through its events, then through the plugins at the end of the
test, and then the supervisor and the owner have had their last word. `Course` keeps the worlds in
between, so that what is known of each part can be put together to what holds of the whole.
-/

namespace PageScript

variable {σ : Type}

/-- The world in which the events of a test begin. -/
def World.opened (setup : Setup) (calendar : Calendar) (stopAt : Option Duration)
    (events : List Event) (outside : σ) : World σ :=
  ((World.start setup calendar stopAt outside).say (setup.opening events)).say
    (.log ("Running test '" ++ setup.testName ++ "'..."))

/-- The world once the result of the events is in the log. -/
def World.concluded (w : World σ) : Except Error Unit → World σ
  | .error e => w.say (.note .error .traversal "Run failed" [("error", e.message)])
  | .ok () => w

/-- What a worker takes its run to have come to. -/
def World.outcome (w : World σ) : Except Error Unit → Outcome
  | .error e => .failed e.message
  | .ok () => if w.isStopped then .stopped else .completed

/-- The course of a run that has come to an end. -/
structure Course (setup : Setup) (o : Outside σ) (calendar : Calendar)
    (stopAt : Option Duration) (events : List Event) (outside : σ) (ended : Ended σ) where
  result : Except Error Unit
  session : Session
  /-- The world when the events are done. -/
  before : World σ
  /-- The world when the plugins at the end of the test are done. -/
  after : World σ
  run_main : World.run o (Journey.main setup events (setup.session calendar))
    (World.opened setup calendar stopAt events outside) = some ((result, session), before)
  run_plugins : World.run o (session.fireAfterTest setup) before = some ((), after)
  world_eq : ended.world = (after.concluded result).settle.awaitOwner
  outcome_eq : ended.outcome = ended.world.verdict (after.outcome result)

theorem leads_conclude {o : Outside σ} {w : World σ} (result : Except Error Unit)
    {Q : Outcome → World σ → Prop} :
    w.Leads o (Worker.conclude result) Q ↔ Q (w.outcome result) (w.concluded result) := by
  cases result with
  | error e =>
    rw [Worker.conclude, World.leads_bind, World.leads_say, World.leads_pure]
    rfl
  | ok _ =>
    rw [Worker.conclude, World.leads_bind, World.leads_isStopped, World.leads_pure]
    rfl

/-- Every run that comes to an end has its course. -/
theorem exists_course {setup : Setup} {o : Outside σ} {calendar : Calendar}
    {stopAt : Option Duration} {events : List Event} {outside : σ} {ended : Ended σ}
    (hrun : setup.run o calendar stopAt events outside = some ended) :
    Nonempty (Course setup o calendar stopAt events outside ended) := by
  obtain ⟨⟨outcome, w⟩, hw, rfl⟩ := Option.map_eq_some_iff.1 hrun
  have htest : Stretch.Leads o (Journey.test setup events) (setup.session calendar)
      (World.opened setup calendar stopAt events outside) fun result session after =>
        ∃ before, World.run o (Journey.main setup events (setup.session calendar))
            (World.opened setup calendar stopAt events outside) =
              some ((result, session), before) ∧
          World.run o (session.fireAfterTest setup) before = some ((), after) := by
    -- the worlds in between are those of the run itself
    simp only [Journey.test, Stretch.leads_bind, Stretch.leads_get, Stretch.leads_ofWorker,
      Stretch.leads_pure]
    exact fun p before hmain => fun _ after hplugins => ⟨before, hmain, hplugins⟩
  have hworker : (World.start setup calendar stopAt outside).Leads o
      (setup.worker events (setup.session calendar)) fun outcome w =>
        ∃ (result : Except Error Unit) (session : Session) (before after : World σ),
          World.run o (Journey.main setup events (setup.session calendar))
            (World.opened setup calendar stopAt events outside) =
              some ((result, session), before) ∧
          World.run o (session.fireAfterTest setup) before = some ((), after) ∧
          outcome = after.outcome result ∧ w = after.concluded result := by
    rw [Setup.worker, World.leads_bind, World.leads_say, World.leads_bind, World.leads_say,
      World.leads_bind]
    refine World.Leads.mono htest fun p after h => ?_
    obtain ⟨before, hmain, hplugins⟩ := h
    exact leads_conclude p.1 |>.2 ⟨p.1, p.2, before, after, hmain, hplugins, rfl, rfl⟩
  obtain ⟨result, session, before, after, hmain, hplugins, rfl, rfl⟩ := hworker outcome w hw
  exact ⟨⟨result, session, before, after, hmain, hplugins, rfl, rfl⟩⟩

/-! ## A small run -/

/-- An outside with one window, which answers nothing else. -/
def Outside.oneWindow : Outside Unit
  | .call .currentWindow, s => .answer s (.ok "main")
  | .call .windowHandles, s => .answer s (.ok ["main"])
  | _, s => { start := s, ending := none }

/-- The settings of a small run. -/
def Setup.small (plugins : List Configured := []) : Setup where
  testName := "small"
  watchdogTimeout := .ofSecs 7
  watchdogPoll := .ofSecs 2
  elementPatience := .ofSecs 1
  attachPatience := .ofSecs 1
  plugins

/-- A small run. -/
def Setup.smallRun (plugins : List Configured) (stopAt : Option Duration) (events : List Event) :
    Option (Ended Unit) :=
  (small plugins).run .oneWindow ⟨2020, 1, 1, 0, 0, 0⟩ stopAt events ()

end PageScript
