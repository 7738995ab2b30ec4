import PageScript.Proofs.BrowserLoss
import PageScript.Proofs.Teardown

/-!
# What comes of the loss of the browser

Where an answer says that the browser is lost, the event at hand is over with that error, be it
carried out or its context restored; it tells of the loss, reports it and ends the traversal.
`EndsByLoss` gathers what that means for the whole run: nothing more begins, no other event reports
the loss, every scope of a row has been left, the plugins at the end of the test have their occasion,
and the run has failed with the text of the error, unless the watchdog has tripped.
-/

namespace PageScript

variable {σ α β ε : Type} {o : Outside σ} {setup : Setup} {s s' : Session} {w w' : World σ}

/-! ## The event that loses the browser -/

/-- What comes after a part of a run starts where the part has come to a result, and otherwise there
is nothing after it. -/
theorem Stretch.run_run_bind (m : ExceptT ε Stretch β) (f : β → ExceptT ε Stretch α) :
    World.run o ((m >>= f).run s) w = (World.run o (m.run s) w).bind fun p =>
      match p.1.1 with
      | .ok b => World.run o ((f b).run p.1.2) p.2
      | .error e => some ((.error e, p.1.2), p.2) := by
  have hbind : (m >>= f).run s = m.run s >>= fun p =>
      match p.1 with
      | .ok b => (f b).run p.2
      | .error e => pure (.error e, p.2) := by
    rw [ExceptT.run_bind]
    refine congrArg (m.run s >>= ·) (funext fun p => ?_)
    rcases p with ⟨_ | _, _⟩ <;> rfl
  rw [hbind, World.run_bind]
  refine congrArg (World.run o (m.run s) w).bind (funext fun p => ?_)
  rcases p with ⟨⟨_ | _, _⟩, _⟩ <;> rfl

/-- A part that cannot end early always comes to a result. -/
theorem Stretch.run_run_lift (m : Stretch α) :
    World.run o ((ExceptT.lift m : ExceptT ε Stretch α).run s) w =
      (World.run o (m s) w).map fun r => ((.ok r.1.1, r.1.2), r.2) := by
  have hlift : (ExceptT.lift m : ExceptT ε Stretch α).run s =
      m s >>= fun r => pure (.ok r.1, r.2) := by
    rw [ExceptT.run_lift, map_eq_pure_bind]
    rfl
  rw [hlift, World.run_bind]
  cases World.run o (m s) w <;> rfl

/-- A part of an event is taken whatever its end. -/
theorem Journey.run_attempt {p : ExceptT ε Stretch α} {r : Except ε α}
    (h : World.run o (p.run s) w = some ((r, s'), w')) :
    World.run o ((Journey.attempt p).run s) w = some ((.ok r, s'), w') :=
  (Stretch.run_run_lift p.run).trans (congrArg _ h)

/-- The report of the loss ends the traversal. -/
theorem Journey.run_report_lost (event : Event) (e : Error) :
    World.run o ((Journey.report event (.lost e)).run s) w = some ((.error e, s), w.lose event e) :=
  rfl

/-- An event whose execution ends with the loss of the browser tells of it, reports it and ends the
traversal, whatever belongs to it. -/
theorem Journey.run_visitOne_of_lost {event : Event} {parent : Option Element} {e : Error}
    (h : World.run o ((Passage.carryOut setup event parent).run s)
      (w.tell (.stage (.started event parent))).pulse = some ((.error (.lost e), s'), w'))
    (follow : List Event → Option Element → Journey Unit) :
    World.run o ((Journey.visitOne setup follow event parent).run s) w =
      some ((.error e, s'),
        (w'.tell (.stage (.carriedOut event (.error (.lost e))))).lose event e) := by
  have hopen : World.run o ((Passage.openEvent setup event parent).run s)
      (w.tell (.stage (.started event parent))).pulse = some ((.error (.lost e), s'),
        w'.tell (.stage (.carriedOut event (.error (.lost e))))) := by
    rw [Passage.openEvent, Stretch.run_run_bind, Stretch.run_run_lift, h]
    rfl
  have hopening (inside : Journey Unit) :
      World.run o ((Detour.opening setup follow inside event parent).run s)
        (w.tell (.stage (.started event parent))).pulse = some ((.error (.own (.lost e)), s'),
          w'.tell (.stage (.carriedOut event (.error (.lost e))))) := by
    rw [Detour.opening, Stretch.run_run_bind, Detour.ofPassage, ExceptT.run_mk, map_eq_pure_bind]
    change (World.run o ((Passage.openEvent setup event parent).run s >>= fun r => _) _).bind _ = _
    rw [World.run_bind, hopen]
    rfl
  obtain ⟨_, _, _, _, _, _, children⟩ := event
  rw [Journey.visitOne, Journey.runEvent, Stretch.run_run_bind]
  change World.run o (ExceptT.run (Journey.pulse >>= fun _ => _) s) _ = _
  rw [Stretch.run_run_bind]
  change World.run o (ExceptT.run (Journey.attempt _ >>= fun result => _) s) _ = _
  rw [Stretch.run_run_bind, Journey.run_attempt (hopening _)]
  rfl

/-- A hook that ends with the loss of the browser is told of, reported and ends the traversal. -/
theorem Journey.run_leave_of_lost {r : Restore} {e : Error}
    (h : World.run o ((Passage.restore setup r).run s) w = some ((.error (.lost e), s'), w'))
    (event : Event) :
    World.run o ((Journey.leave setup event r).run s) w =
      some ((.error e, s'), w'.lose event e) := by
  rw [Journey.leave, Stretch.run_run_bind, Journey.run_attempt h]
  exact Journey.run_report_lost (o := o) event e

/-! ## What the reports say -/

theorem reportedLoss?_eq (h : Happening) : h.reportedLoss? =
    (match h with
      | .notice n => n.report?
      | .called _ => none).bind Report.loss? := by
  rcases h with (_ | _ | _ | _ | _) | _ <;> try rfl
  rename_i stage
  cases stage <;> rfl

/-- Where no plugin reports the loss of the browser itself, the reports of a run tell of it just as
its history does. -/
theorem World.loss_reports (w : World σ) (halone : ∀ h past, h :: past <:+ w.history →
    h.reportedLoss?.isSome = true → underWay past = none) :
    w.reports.filterMap Report.loss? = (lossReports w.history).reverse := by
  have hreports : w.reports.filterMap Report.loss? =
      (w.history.filterMap Happening.reportedLoss?).reverse := by
    rw [reports, notices, List.filterMap_filterMap, List.filterMap_filterMap,
      ← List.filterMap_reverse]
    refine congrArg (List.filterMap · _) (funext fun h => ?_)
    rw [reportedLoss?_eq]
    cases h <;> rfl
  rw [hreports]
  refine congrArg List.reverse ?_
  generalize w.history = history at halone
  induction history with
  | nil => rfl
  | cons h past ih =>
    have hpast := ih fun h' past' hsuffix =>
      halone h' past' (hsuffix.trans (List.suffix_cons h past))
    rw [lossReports, ← hpast]
    cases hloss : h.reportedLoss? with
    | none =>
      rw [List.filterMap_cons_none hloss]
      split <;> rfl
    | some e =>
      have hway := halone h past List.suffix_rfl (by rw [hloss]; rfl)
      rw [List.filterMap_cons_some hloss, hway]
      rfl

/-! ## The end of a test -/

/-- At the end of a test the plugins have their occasion, and if there are any, the query for open
windows is made. -/
theorem Session.asks_fireAfterTest (s : Session) :
    w.Leads o (s.fireAfterTest setup) fun _ w' =>
      .stage (.occasion { phase := .afterTest }) :: w.history <:+ w'.history ∧
        (s.registry ≠ [] → .called .windowHandles ::
          .stage (.occasion { phase := .afterTest }) :: w.history <:+ w'.history) := by
  have hrest {β : Type} {history : List Happening} {w₁ : World σ} (p : Worker β)
      (h : history <:+ w₁.history) : w₁.Leads o p fun _ w' => history <:+ w'.history :=
    (World.leads_later p).mono fun _ _ hlater => h.trans hlater.history
  rw [fireAfterTest, World.leads_bind, World.leads_isStopped, World.leads_bind, World.leads_tell,
    World.leads_bind, World.leads_limit]
  refine (hrest _ List.suffix_rfl).and ?_
  by_cases hempty : s.registry = []
  · exact (hrest _ List.suffix_rfl).mono fun _ _ _ hne => absurd hempty hne
  have hcall : (w.tell (.stage (.occasion { phase := .afterTest }))).Leads o
      (Worker.call (lastGuard w.isStopped (w.limit setup.watchdogTimeout)) .windowHandles)
      fun _ w' => .called .windowHandles ::
        .stage (.occasion { phase := .afterTest }) :: w.history <:+ w'.history := by
    rw [Worker.call, World.leads_guarded]
    split
    · -- the plugins of a run that has been stopped before do not heed the stop
      rename_i hcut
      rw [World.isStopped_tell, lastGuard, Bool.and_eq_true] at hcut
      rw [if_pos hcut.2] at hcut
      cases hcut.1
    · have hlater := (World.elapses_step o (lastGuard w.isStopped (w.limit setup.watchdogTimeout))
        (w.tell (.stage (.occasion { phase := .afterTest }))) (.act (.call .windowHandles))).later
      exact hlater.history
  rw [World.leads_bind, dispatch, if_neg (by simpa using hempty), World.leads_bind]
  refine hcall.mono fun result w₁ h₁ => ?_
  refine World.Leads.mono (hrest _ h₁) fun ending w₂ h₂ => ?_
  exact (hrest _ h₂).mono fun _ _ h₃ _ => h₃

theorem Setup.depth_session (setup : Setup) (calendar : Calendar) :
    (setup.session calendar).vars.depth = 1 := by
  have hputs (globals : Bindings String) (v : Vars) (h : v.depth = 1) :
      (globals.foldl (fun v p => v.put ("global." ++ p.1) p.2) v).depth = 1 := by
    induction globals generalizing v with
    | nil => exact h
    | cons p globals ih => exact ih _ (by rwa [Vars.depth_put])
  exact hputs _ _ (by rw [Vars.depth_put, Vars.depth_put]; rfl)

/-! ## The whole run -/

section Runs

variable {calendar : Calendar} {stopAt : Option Duration} {events : List Event} {outside : σ}
  {ended : Ended σ}

/-- What comes of the loss of the browser that an event tells of, given what came later and what came
before. -/
structure EndsByLoss (course : Course setup o calendar stopAt events outside ended) (e : Error)
    (later past : List Happening) : Prop where
  isLoss : ∃ reason, e = .browser (.sessionLost reason)
  /-- No other event tells of a loss. -/
  told_once : losses ended.world.history = [e]
  /-- The loss is reported once, but for what plugins may say of themselves. -/
  reported_once : lossReports ended.world.history = [e]
  reports_eq : (∀ h before, h :: before <:+ ended.world.history →
      h.reportedLoss?.isSome = true → underWay before = none) →
    ended.world.reports.filterMap Report.loss? = [e]
  /-- No event starts, at any depth. -/
  no_event : ∀ event parent, Happening.stage (.started event parent) ∉ later
  /-- No row begins. -/
  no_row : ∀ cells, Happening.stage (.row cells) ∉ later
  /-- No plugin starts but at the end of the test. -/
  no_plugin : ∀ name phase, Happening.stage (.pluginStarted name phase) ∈ later →
    phase = some .afterTest
  /-- The browser is called only at the end of the test. -/
  no_call : ∀ c since before, later = since ++ .called c :: before → AtEnd c (before ++ past)
  /-- The scopes of all rows have been left, so that only the outermost one is there. -/
  scopes_left : course.session.vars.depth = 1
  /-- The loss comes before the end of the test. -/
  before_end : past <:+ course.before.history
  /-- The plugins at the end of the test have their occasion all the same. -/
  occasion : .stage (.occasion { phase := .afterTest }) :: course.before.history <:+
    ended.world.history
  query : course.session.registry ≠ [] → .called .windowHandles ::
    .stage (.occasion { phase := .afterTest }) :: course.before.history <:+ ended.world.history
  outcome_eq : ended.outcome =
    if ended.world.watchdog.tripped then
      .failed (Error.watchdogExpired (Duration.secs ended.world.watchdog.timeout)).message
    else .failed e.message

/-- What the end of a test and the end of a run add is no failure of an event. -/
theorem Course.suffix_before (course : Course setup o calendar stopAt events outside ended)
    {event : Event} {failure : Failure} {later past : List Happening}
    (h : ended.world.history = later ++ .stage (.failed event failure) :: past) :
    .stage (.failed event failure) :: past <:+ course.before.history := by
  have hadds : course.before.Adds Happening.Closing ended.world :=
    course.adds_plugins.trans (course.adds_end.mono fun _ => .passing)
  obtain ⟨added, heq, hclosing⟩ := hadds
  rw [h] at heq
  rcases List.append_eq_append_iff.1 heq with ⟨since, rfl, hsince⟩ | ⟨since, -, hsince⟩
  · rcases List.cons_eq_append_iff.1 hsince with ⟨-, hbefore⟩ | ⟨since', rfl, -⟩
    · exact hbefore ▸ List.suffix_rfl
    · have hfailed := hclosing (.stage (.failed event failure)) (by simp)
      rcases hfailed with hpassing | _ | hplugin
      · cases hpassing
      · cases hplugin
  · exact ⟨since, hsince.symm⟩

theorem Course.endsByLoss (course : Course setup o calendar stopAt events outside ended)
    {event : Event} {e : Error} {later past : List Happening}
    (h : ended.world.history = later ++ .stage (.failed event (.lost e)) :: past) :
    EndsByLoss course e later (.stage (.failed event (.lost e)) :: past) := by
  have haccounts := course.accounts
  have hmem : e ∈ losses ended.world.history :=
    List.mem_filterMap.2 ⟨.stage (.failed event (.lost e)), by rw [h]; simp, rfl⟩
  -- the loss is the one that the events have ended with
  have hresult : course.result = .error e := by
    rw [haccounts.losses_eq, gone] at hmem
    cases hres : course.result with
    | ok _ => rw [hres] at hmem; cases hmem
    | error e' => rw [hres] at hmem; rw [List.mem_singleton.1 hmem]
  have hgone : course.gone = [e] := by rw [gone, hresult]
  rw [hgone] at haccounts
  have hlost (before : List Happening) : Lost (before ++ .stage (.failed event (.lost e)) :: past) :=
    ⟨event, e, by simp⟩
  have hlaw {new : Happening} {since before : List Happening}
      (hlater : later = since ++ new :: before) :
      lossLaw new (before ++ .stage (.failed event (.lost e)) :: past) := by
    have habides := haccounts.abides
    rw [h, hlater, List.append_assoc] at habides
    exact habides _ _ (List.suffix_append since _)
  have hmay {new : Happening} (hmem : new ∈ later) :
      ∃ before, Lost before ∧ lossLaw new before := by
    obtain ⟨since, before, hlater⟩ := List.append_of_mem hmem
    exact ⟨_, hlost before, hlaw hlater⟩
  obtain ⟨hoccasion, hquery⟩ := course.session.asks_fireAfterTest _ _ course.run_plugins
  have hend := course.later_end.history
  exact {
    isLoss := Error.isLoss_iff.1 (course.events_end.2.2 e hresult)
    told_once := haccounts.losses_eq
    reported_once := haccounts.reports_eq
    reports_eq := by
      intro halone
      rw [ended.world.loss_reports halone, haccounts.reports_eq]
      rfl
    no_event := by
      intro event parent hmem
      obtain ⟨before, hlost, hlaw⟩ := hmay hmem
      exact hlaw hlost
    no_row := by
      intro cells hmem
      obtain ⟨before, hlost, hlaw⟩ := hmay hmem
      exact hlaw hlost
    no_plugin := by
      intro name phase hmem
      obtain ⟨before, hlost, hlaw⟩ := hmay hmem
      exact hlaw hlost
    no_call := by
      intro c since before hlater
      exact hlaw hlater (hlost before)
    scopes_left := course.events_end.1.depth_eq.trans (setup.depth_session calendar)
    before_end := course.suffix_before h
    occasion := hoccasion.trans hend
    query := fun hne => (hquery hne).trans hend
    outcome_eq := by
      rw [course.outcome_eq, hresult]
      rfl }

/-- An event is over as soon as an answer says that the browser is lost, and says so for no other
reason; then it tells of the loss, reports it and ends the traversal. So does its hook. -/
structure HeedsLoss (setup : Setup) (o : Outside σ) : Prop where
  carryOut : ∀ event parent, (Passage.carryOut setup event parent).Heeds setup
  restore : ∀ r, (Passage.restore setup r).Heeds setup
  visitOne : ∀ {s s' w w'} event parent e follow,
    World.run o ((Passage.carryOut setup event parent).run s)
      (w.tell (.stage (.started event parent))).pulse = some ((.error (.lost e), s'), w') →
    World.run o ((Journey.visitOne setup follow event parent).run s) w = some ((.error e, s'),
      (w'.tell (.stage (.carriedOut event (.error (.lost e))))).lose event e)
  leave : ∀ {s s' w w'} event r e,
    World.run o ((Passage.restore setup r).run s) w = some ((.error (.lost e), s'), w') →
    World.run o ((Journey.leave setup event r).run s) w = some ((.error e, s'), w'.lose event e)

theorem heedsLoss (setup : Setup) (o : Outside σ) : HeedsLoss setup o where
  carryOut := Passage.heeds_carryOut setup
  restore := Passage.heeds_restore setup
  visitOne _ _ _ follow h := Journey.run_visitOne_of_lost h follow
  leave event _ _ h := Journey.run_leave_of_lost h event

/-- **The loss of the browser ends a run**, in whatever event it comes about and however deeply that
event is nested. -/
theorem endsByLoss_of_run (hrun : setup.run o calendar stopAt events outside = some ended) :
    HeedsLoss setup o ∧ Nonempty (Course setup o calendar stopAt events outside ended) ∧
    ∀ (course : Course setup o calendar stopAt events outside ended) event e later past,
      ended.world.history = later ++ .stage (.failed event (.lost e)) :: past →
        EndsByLoss course e later (.stage (.failed event (.lost e)) :: past) :=
  ⟨heedsLoss setup o, exists_course hrun, fun course _ _ _ _ h => course.endsByLoss h⟩

end Runs

/-- A table event with a child for each row. -/
def tableEvents : List Event :=
  [{ kind := .command .csv, name := "csv", actions := ⟨[("file", .text "table.csv")]⟩,
     children := [{ kind := .markup .div, name := "div" }] }]

/-- Events of which the first one includes a script. -/
def includingEvents : List Event :=
  [{ kind := .command .script, name := "script", actions := ⟨[("file", .text "rows.yaml")]⟩ },
   { kind := .command .arg, name := "arg" }]

/-- An outside with a script, a table of two rows, and a browser that is lost when an element is
looked for. -/
def Outside.losing : Outside Unit
  | .loadScript _, s => .answer s (.ok tableEvents)
  | .readFile _, s => .answer s (.ok "a\n1\n2")
  | .call (.find ..), s => .answer s (.error (.sessionLost "gone"))
  | a, s => oneWindow a s

/-- A run that loses the browser in a row of a table of an included script. -/
theorem endsByLoss_losingRun : ∃ ended, Setup.sleepy.run .losing ⟨2020, 1, 1, 0, 0, 0⟩ none
      includingEvents () = some ended ∧
    (starts ended.world.history).map (·.1.name) = ["script", "csv", "div"] ∧
    ended.outcome = .failed "Driver error: Browser session lost: gone" ∧
    ∃ (course : Course .sleepy .losing ⟨2020, 1, 1, 0, 0, 0⟩ none includingEvents () ended)
      (event : Event) (later past : List Happening), ended.world.history = later ++
          .stage (.failed event (.lost (.browser (.sessionLost "gone")))) :: past ∧
        EndsByLoss course (.browser (.sessionLost "gone")) later
          (.stage (.failed event (.lost (.browser (.sessionLost "gone")))) :: past) := by
  have hshown : (Setup.sleepy.run .losing ⟨2020, 1, 1, 0, 0, 0⟩ none includingEvents ()).map
      (fun ended => ((starts ended.world.history).map (·.1.name), ended.outcome,
        losses ended.world.history)) = some (["script", "csv", "div"],
          .failed "Driver error: Browser session lost: gone",
          [.browser (.sessionLost "gone")]) := by decide +kernel
  obtain ⟨ended, hrun, hshown⟩ := Option.map_eq_some_iff.1 hshown
  rw [Prod.mk.injEq, Prod.mk.injEq] at hshown
  obtain ⟨hstarts, houtcome, hlosses⟩ := hshown
  obtain ⟨-, ⟨course⟩, hends⟩ := endsByLoss_of_run hrun
  obtain ⟨h, hmem, hloss⟩ := List.mem_filterMap.1 (hlosses ▸ List.mem_singleton_self _ :
    Error.browser (.sessionLost "gone") ∈ losses ended.world.history)
  unfold Happening.loss? at hloss
  split at hloss <;> cases hloss
  obtain ⟨later, past, heq⟩ := List.append_of_mem hmem
  exact ⟨ended, hrun, hstarts, houtcome, course, _, later, past, heq, hends course _ _ _ _ heq⟩

end PageScript
