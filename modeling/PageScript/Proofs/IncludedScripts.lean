import PageScript.Proofs.FollowedEnds
import PageScript.Proofs.SupervisorLaw

/-!
# Including a script means running its events in place

Two runs of the same settings before the same outside begin abreast, and as long as no plugins are
active they come to their first events abreast. From there a run of events is followed by the run of
what comes of them if the events of a script are put in the place of an event that includes it, and
both come to an end. After the last event nothing is left to do but to end the run, and to tell its
owner what it has come to. So in the end all is the same, but for the lines that the event that
includes the script has of its own.
-/

namespace PageScript

open Stretch

variable {σ : Type} {o : Outside σ} {setup : Setup} {inclusion : Event} {included : List Event}
  {own : Report → Prop} {calendar : Calendar} {stopAt : Option Duration}
  {events events' : List Event} {outside : σ} {ended ended' : Ended σ}

/-! ## The start and the end of a run -/

namespace World

section Trace

variable (w : World σ)

theorem reports_eq_trace : w.reports = w.trace.reports.reverse := reports_eq w

@[simp] theorem trace_trip : w.trip.trace = w.trace :=
  (trace_tell _ _).trans (trace_stop _ _)

@[simp] theorem trace_settle : w.settle.trace = w.trace := by
  unfold settle
  split
  · split
    · split
      · exact trace_trip w
      · exact trace_reach w _ _
    · rfl
  · rfl

theorem trace_sound (alarm : Alarm) : (w.sound alarm).trace = w.trace := by
  cases alarm with
  | owner t => exact trace_sound_owner w t
  | trip t => exact (trace_trip _).trans (trace_lookUntil w t)

@[simp] theorem trace_awaitOwner : w.awaitOwner.trace = w.trace := by
  unfold awaitOwner
  split
  · rfl
  · split
    · exact (trace_ownerStops _).trans (trace_sound w _)
    · exact trace_sound w _

end Trace

/-- When the worker begins, the owner is yet to come, unless the run has been stopped already. -/
theorem pending_start (setup : Setup) (calendar : Calendar) (stopAt : Option Duration) (outside : σ)
    (hgoes : (start setup calendar stopAt outside).isStopped = false) {t : Duration}
    (ht : (start setup calendar stopAt outside).stopAt = some t) :
    (start setup calendar stopAt outside).now < t := by
  unfold start at hgoes ht ⊢
  dsimp only at hgoes ht ⊢
  split at hgoes
  · cases hgoes
  rename_i hlater
  rw [if_neg hlater, stopAt_lookUntil] at ht
  rw [if_neg hlater, now_lookUntil]
  refine Nat.pos_of_ne_zero fun hzero => hlater ?_
  rw [show stopAt = some t from ht, hzero]
  rfl

/-- Whatever its events are, a run begins in the same way. -/
theorem abreast_opened (own : Report → Prop) (setup : Setup) (calendar : Calendar)
    (stopAt : Option Duration) (events events' : List Event) (outside : σ) :
    (opened setup calendar stopAt events outside).Abreast own
      (opened setup calendar stopAt events' outside) := by
  have hstart : (start setup calendar stopAt outside).Abreast own
      (start setup calendar stopAt outside) :=
    ⟨rfl, rfl, rfl, fun hgoes _ => pending_start setup calendar stopAt outside hgoes, rfl,
      .refl own _⟩
  have hopening : ((start setup calendar stopAt outside).say (setup.opening events)).Abreast own
      ((start setup calendar stopAt outside).say (setup.opening events')) := hstart.tell rfl
  exact hopening.tell rfl

theorem Abreast.concluded {w w' : World σ} (h : w.Abreast own w') (result : Except Error Unit) :
    (w.concluded result).Abreast own (w'.concluded result) := by
  cases result with
  | error e => exact h.tell rfl
  | ok _ => exact h

end World

/-- Two runs that have ended are abreast: they have come to the same, the same calls have been made,
the outside has been left the same, and one of them has at most some lines more in its report, all of
them of a kind. -/
structure Ended.Abreast (own : Report → Prop) (ended ended' : Ended σ) : Prop where
  outcome_eq : ended'.outcome = ended.outcome
  calls_eq : calls ended'.world.history = calls ended.world.history
  outside_eq : ended'.world.outside = ended.world.outside
  reports : Padded own ended.world.reports ended'.world.reports

/-- Whether a report is a line of the log, and so neither an error nor an exception nor a check. -/
def Report.isLog : Report → Bool
  | .log _ => true
  | .warning _ | .error _ | .exception _ _ | .check _ _ | .checkNot _ _ => false

section OwnLines

variable {event : Event}

theorem Event.OwnLine.isLog {r : Report} (h : event.OwnLine r) : r.isLog = true := by
  cases h <;> rfl

theorem Event.OwnLine.count_eq {r : Report} (h : event.OwnLine r) (counts : Summary) :
    Report.count counts r = counts := by
  cases h <;> rfl

theorem Ended.Abreast.filter_reports (h : ended.Abreast event.OwnLine ended') :
    ended'.world.reports.filter (!·.isLog) = ended.world.reports.filter (!·.isLog) :=
  h.reports.filter_eq fun r hown => by rw [hown.isLog]; rfl

theorem Ended.Abreast.summary_eq (h : ended.Abreast event.OwnLine ended') :
    ended'.world.summary = ended.world.summary := by
  rw [World.summary, World.summary, Summary.ofReports, Summary.ofReports]
  exact h.reports.foldl_eq (fun counts _ hown => hown.count_eq counts) {}

end OwnLines

/-- Runs that are done with their events abreast are abreast when they have ended, if the watchdog has
tripped in neither. -/
theorem Course.abreast_end {course : Course setup o calendar stopAt events outside ended}
    {course' : Course setup o calendar stopAt events' outside ended'}
    (hresult : course'.result = course.result)
    (h : (⟨course.session, course.before⟩ : Moment σ).Abreast own ⟨course'.session, course'.before⟩)
    (htripped : ended.world.watchdog.tripped = false)
    (htripped' : ended'.world.watchdog.tripped = false) : ended.Abreast own ended' := by
  have hregistry' : course'.session.registry = [] :=
    (congrArg Session.registry h.session_eq).trans h.registry
  have hafter : course.after.Abreast own course'.after := by
    rw [course.after_eq h.registry, course'.after_eq hregistry']
    exact h.world.tell rfl
  have hdone := hafter.concluded course.result
  have htrace : ended.world.trace = (course.after.concluded course.result).trace := by
    rw [course.world_eq, World.trace_awaitOwner, World.trace_settle]
  have htrace' : ended'.world.trace = (course'.after.concluded course.result).trace := by
    rw [course'.world_eq, hresult, World.trace_awaitOwner, World.trace_settle]
  have hends : ended'.world.trace =
      { ended.world.trace with reports := ended'.world.trace.reports } := by
    rw [htrace, htrace']
    exact hdone.trace_eq
  refine ⟨?_, congrArg World.Trace.calls hends, congrArg World.Trace.outside hends, ?_⟩
  · rw [course.outcome_eq, course'.outcome_eq, World.verdict, World.verdict, htripped, htripped',
      hresult]
    cases course.result with
    | error e => rfl
    | ok _ =>
      rw [World.outcome, World.outcome, hafter.stopped_eq]
      rfl
  · rw [World.reports_eq_trace, World.reports_eq_trace, htrace, htrace']
    exact hdone.reports.reverse

theorem Course.untripped_before (course : Course setup o calendar stopAt events outside ended)
    (hpoll : 0 < setup.watchdogPoll)
    (hrun : setup.run o calendar stopAt events outside = some ended)
    (htripped : ended.world.watchdog.tripped = false) : course.before.Untripped := by
  have hended : ended.world.Untripped := fun t hmem => by
    rw [(watched_of_run hpoll hrun).tripped_iff.2 ⟨t, hmem⟩] at htripped
    cases htripped
  exact hended.before (course.later_after.trans course.later_end)

/-- Runs of the same settings come to their first events abreast. -/
theorem abreast_begun (hplugins : setup.plugins = []) {begun begun' : Moment σ}
    (hbegun : Comes o (Journey.noteWindow >>= fun _ => fire setup { phase := .beforeTest })
      ⟨setup.session calendar, .opened setup calendar stopAt events outside⟩ () begun)
    (hbegun' : Comes o (Journey.noteWindow >>= fun _ => fire setup { phase := .beforeTest })
      ⟨setup.session calendar, .opened setup calendar stopAt events' outside⟩ () begun')
    (hun : begun.world.Untripped) (hun' : begun'.world.Untripped) : begun.Abreast own begun' := by
  have hbegin : Twins Eq (Journey.noteWindow >>= fun _ => fire setup { phase := .beforeTest })
      (Journey.noteWindow >>= fun _ => fire setup { phase := .beforeTest }) Eq :=
    Journey.twins_noteWindow.bind_eq fun _ => twins_fire ⟨rfl, rfl, .none⟩
  have hstart : Moment.Abreast own
      ⟨setup.session calendar, World.opened setup calendar stopAt events outside⟩
      ⟨setup.session calendar, World.opened setup calendar stopAt events' outside⟩ :=
    ⟨rfl, Setup.registry_session hplugins calendar,
      World.abreast_opened own setup calendar stopAt events events' outside⟩
  exact (Stretch.Comes.abreast hbegin Journey.plain_begin hstart hbegun hbegun' hun hun').2

/-- A run comes to an end if a run does in which an event includes some of its events. -/
theorem exists_run_inPlace (hplugins : setup.plugins = []) (hincludes : setup.Includes inclusion)
    (hplace : InPlace inclusion included events events')
    {course : Course setup o calendar stopAt events outside ended} {stays : List (Stay σ)}
    (htoured : Toured course stays)
    (hloads : ∀ stay ∈ Stay.allOf stays, stay.event = inclusion →
      stay.before.Loads setup o inclusion included)
    (hun : course.before.Untripped) :
    ∃ ended', setup.run o calendar stopAt events' outside = some ended' := by
  obtain ⟨begun, hbegun, htour⟩ := htoured.tour
  have hmain : Lands o (Journey.main setup events) (setup.session calendar)
      (.opened setup calendar stopAt events outside) fun _ _ _ => True :=
    ⟨_, _, _, course.run_main, trivial⟩
  rw [Journey.main, ← bind_assoc, lands_bind] at hmain
  have hends := lands_iff hbegun |>.1 hmain
  have hkeeps : Leads o (Journey.noteWindow >>= fun _ => fire setup { phase := .beforeTest })
      (setup.session calendar) (.opened setup calendar stopAt events' outside) fun _ _ w =>
        w.Coherent :=
    (World.coherent_opened setup calendar stopAt events' outside).leads _
  have hbegins : Lands o (Journey.noteWindow >>= fun _ => fire setup { phase := .beforeTest })
      (setup.session calendar) (.opened setup calendar stopAt events' outside) fun _ s _ =>
        s.registry = [] :=
    Journey.plain_begin.lands (Setup.registry_session hplugins calendar)
  refine exists_run_of_lands ?_
  rw [Journey.main, ← bind_assoc, lands_bind]
  refine (hbegins.and ((leads_comes _).and hkeeps)).mono ?_
  rintro _ s w ⟨hs, hbegun', hw⟩
  cases hdepth : setup.nesting with
  | zero =>
    rw [hdepth] at hends
    obtain ⟨_, _, _, hrun, -⟩ := hends
    cases hrun
  | succ depth =>
    rw [hdepth] at hends
    cases hstop : w.isStopped with
    | true => exact (Journey.lands_visitAll_of_stopped hstop).mono fun _ _ _ h => h ▸ hs
    | false =>
      have hun' : w.Untripped := fun t hmem => hw.not_stopped hstop ⟨_, t, hmem⟩
      have hbegun₁ : begun.Abreast inclusion.OwnLine ⟨s, w⟩ :=
        abreast_begun hplugins hbegun hbegun' (hun.before htour.later) hun'
      exact htour.arrives hplugins hincludes hloads (.siblings none hplace) trivial hbegun₁ hw hun
        hends

/-- **Including a script means running its events in place.** Without plugins the run in which the
events of the script stand in the place of an event that includes it comes to an end, too. If the
watchdog trips in neither run, both make the same calls and come to the same, and so do their points
that correspond; the reports are the same, but for the lines that the event has of its own. -/
theorem abreast_of_run (hpoll : 0 < setup.watchdogPoll) (hplugins : setup.plugins = [])
    (hincludes : setup.Includes inclusion) (hplace : InPlace inclusion included events events')
    (hrun : setup.run o calendar stopAt events outside = some ended)
    (hloads : ∀ (course : Course setup o calendar stopAt events outside ended)
      (stays : List (Stay σ)), Toured course stays → ∀ stay ∈ Stay.allOf stays,
        stay.event = inclusion → stay.before.Loads setup o inclusion included)
    (htripped : ended.world.watchdog.tripped = false) :
    ∃ ended', setup.run o calendar stopAt events' outside = some ended' ∧
      (ended'.world.watchdog.tripped = false →
        ended.Abreast inclusion.OwnLine ended' ∧
        ended'.world.reports.filter (!·.isLog) = ended.world.reports.filter (!·.isLog) ∧
        ended'.world.summary = ended.world.summary ∧
        ∃ (course : Course setup o calendar stopAt events outside ended) (stays : List (Stay σ))
          (course' : Course setup o calendar stopAt events' outside ended')
          (stays' : List (Stay σ)),
          Toured course stays ∧ Toured course' stays' ∧ Mirrors inclusion stays stays' ∧
          (⟨course.session, course.before⟩ : Moment σ).Abreast inclusion.OwnLine
            ⟨course'.session, course'.before⟩) := by
  obtain ⟨course⟩ := exists_course hrun
  obtain ⟨stays, htoured⟩ := course.toured
  have hun := course.untripped_before hpoll hrun htripped
  have hloaded := hloads course stays htoured
  obtain ⟨ended', hrun'⟩ := exists_run_inPlace hplugins hincludes hplace htoured hloaded hun
  refine ⟨ended', hrun', fun htripped' => ?_⟩
  obtain ⟨course'⟩ := exists_course hrun'
  obtain ⟨stays', htoured'⟩ := course'.toured
  obtain ⟨begun, hbegun, htour⟩ := htoured.tour
  obtain ⟨begun', hbegun', htour'⟩ := htoured'.tour
  have hun' := course'.untripped_before hpoll hrun' htripped'
  have hbegun₁ : begun.Abreast inclusion.OwnLine begun' :=
    abreast_begun hplugins hbegun hbegun' (hun.before htour.later) (hun'.before htour'.later)
  obtain ⟨hresult, hmirrors, hends⟩ := htour.follows hplugins hincludes hloaded
    (.siblings none hplace) trivial hbegun₁ htour' hun hun'
  have habreast := Course.abreast_end hresult hends htripped htripped'
  exact ⟨habreast, habreast.filter_reports, habreast.summary_eq, course, stays, course', stays',
    htoured, htoured', hmirrors, hends⟩

/-- A script that binds a variable. -/
def greetingPart : List Event :=
  [{ kind := .command .var, name := "var",
     actions := ⟨[("var", .text "greeting"), ("set", .text "hello")]⟩ }]

/-- An event that includes a script. -/
def Event.includePart : Event :=
  { kind := .command .script, name := "script", actions := ⟨[("file", .text "part.yaml")]⟩ }

/-- An outside with one window which lends this script under every name. -/
def Outside.lending : Outside Unit
  | .loadScript _, s => .answer s (.ok greetingPart)
  | a, s => Outside.oneWindow a s

/-- Some events stand below an event that waits for a second, and the variable is logged after it. -/
def greetingEvents (events : List Event) : List Event :=
  [{ kind := .command .wait, name := "wait", actions := ⟨[("timeout", .text "1")]⟩,
     children := events },
   { kind := .command .puts, name := "puts", actions := ⟨[("txt", .text "\x7b@greeting\x7d")]⟩ }]

/-- A script greets whether it is included or written out. -/
theorem abreast_lendingRun : ∃ ended ended',
    Setup.small.run .lending ⟨2020, 1, 1, 0, 0, 0⟩ none (greetingEvents [.includePart]) () =
      some ended ∧
    Setup.small.run .lending ⟨2020, 1, 1, 0, 0, 0⟩ none (greetingEvents greetingPart) () =
      some ended' ∧
    Report.log "hello" ∈ ended.world.reports ∧
    ended.Abreast Event.includePart.OwnLine ended' := by
  have hshown : (Setup.small.run .lending ⟨2020, 1, 1, 0, 0, 0⟩ none (greetingEvents [.includePart])
      ()).map (fun ended => (ended.world.watchdog.tripped,
        decide (Report.log "hello" ∈ ended.world.reports))) = some (false, true) := by
    decide +kernel
  have hshown' : (Setup.small.run .lending ⟨2020, 1, 1, 0, 0, 0⟩ none (greetingEvents greetingPart)
      ()).map (fun ended => ended.world.watchdog.tripped) = some false := by
    decide +kernel
  obtain ⟨ended, hrun, hends⟩ := Option.map_eq_some_iff.1 hshown
  obtain ⟨htripped, hsays⟩ := Prod.mk.inj hends
  have hplace : InPlace .includePart greetingPart (greetingEvents [.includePart])
      (greetingEvents greetingPart) := .keep (.put .nil) (.keep .nil .nil)
  have hloads (m : Moment Unit) : m.Loads Setup.small .lending .includePart greetingPart :=
    ⟨"part.yaml", file?_of_plain (by decide) rfl (by decide +kernel) (by decide +kernel) _ _,
      rfl, nofun, rfl⟩
  obtain ⟨ended', hrun', habreast⟩ := abreast_of_run (by decide) rfl ⟨rfl, rfl, rfl⟩ hplace hrun
    (fun _ _ _ stay _ _ => hloads stay.before) htripped
  have htripped' : ended'.world.watchdog.tripped = false := by
    rw [hrun'] at hshown'
    exact Option.some.inj hshown'
  exact ⟨ended, ended', hrun, hrun', of_decide_eq_true hsays, (habreast htripped').1⟩

end PageScript
