import PageScript.Proofs.ProgressSigns
import PageScript.Proofs.SupervisorLaw

/-!
# Supervised runs

The watchdog stops a run exactly when it should. What it knows comes from the program of the run,
which tells it of progress, and its looks come from the supervisor. The history of the run holds
both, so what each of them keeps to can be put together: the run is stopped at the first look that
comes too late, which is the first multiple of the interval after the time that is allowed, and no
sign of progress, no stop and no end of an unstopped run comes any later.
-/

namespace PageScript

variable {σ : Type}

/-- A run that the supervisor has looked after from its start to its end. -/
structure Supervised (setup : Setup) (ended : Ended σ) : Prop where
  /-- Progress is told of at the start of the run and at the start and the end of each event, and
  more time is allowed by events that wait or look for a window. -/
  paced : Paced setup ended.world.history
  /-- The looks come at every multiple of the interval. -/
  look_time : ∀ (k : Nat) (look : Look),
    (looks setup.watchdogPoll ended.world.history)[k]? = some look →
      look.time = k * setup.watchdogPoll
  /-- A look knows of the signs of progress up to its time. -/
  look_knows : ∀ look ∈ looks setup.watchdogPoll ended.world.history,
    lastPulse look.past ≤ look.time
  /-- It does not know of those after its time. -/
  look_misses : ∀ t past, .mark (.pulsed t) :: past <:+ ended.world.history →
    ∀ look ∈ looks setup.watchdogPoll past, look.time ≤ t
  /-- The watchdog stops the run at a look exactly if this is the first one at which more time than
  allowed has passed since the last sign of progress. -/
  trips_iff : ∀ k : Nat,
    Happening.mark (.stopped .watchdog (k * setup.watchdogPoll)) ∈ ended.world.history ↔
      (∃ look, (looks setup.watchdogPoll ended.world.history)[k]? = some look ∧
        Late setup.watchdogTimeout look.past look.time) ∧
      ∀ j < k, ∀ look, (looks setup.watchdogPoll ended.world.history)[j]? = some look →
        ¬ Late setup.watchdogTimeout look.past look.time
  /-- A run that always tells of progress in time is never stopped by the watchdog. -/
  spared : (∀ look ∈ looks setup.watchdogPoll ended.world.history,
      ¬ Late setup.watchdogTimeout look.past look.time) →
    ∀ t, Happening.mark (.stopped .watchdog t) ∉ ended.world.history
  /-- The watchdog stops the run at nothing but its deadline. -/
  trip_at_deadline : ∀ t past, .mark (.stopped .watchdog t) :: past <:+ ended.world.history →
    t = deadline setup.watchdogTimeout setup.watchdogPoll past
  /-- A run that has not been stopped goes on no longer than to its deadline before there is a sign
  of progress. -/
  pulse_in_time : ∀ t past, .mark (.pulsed t) :: past <:+ ended.world.history →
    ¬ Stopped past → t ≤ deadline setup.watchdogTimeout setup.watchdogPoll past
  /-- It goes on no longer before it is stopped. -/
  stop_in_time : ∀ who t past, .mark (.stopped who t) :: past <:+ ended.world.history →
    t ≤ deadline setup.watchdogTimeout setup.watchdogPoll past
  /-- It goes on no longer before it ends. -/
  end_in_time : ¬ Stopped ended.world.history →
    ended.world.now ≤ deadline setup.watchdogTimeout setup.watchdogPoll ended.world.history
  /-- A deadline is the first multiple of the interval after the time that is allowed. -/
  deadline_spec : ∀ past, ∃ k,
    deadline setup.watchdogTimeout setup.watchdogPoll past = k * setup.watchdogPoll ∧
      lastPulse past + allowance setup.watchdogTimeout past < k * setup.watchdogPoll ∧
      k * setup.watchdogPoll ≤
        lastPulse past + allowance setup.watchdogTimeout past + setup.watchdogPoll
  /-- A run that the watchdog has stopped has failed, whatever its worker came to. -/
  outcome_eq : (∃ t, Happening.mark (.stopped .watchdog t) ∈ ended.world.history) →
    ended.outcome =
      .failed (Error.watchdogExpired (Duration.secs setup.watchdogTimeout)).message

/-- **Every run is supervised.** -/
theorem supervised_of_run {o : Outside σ} {setup : Setup} {calendar : Calendar}
    {stopAt : Option Duration} {events : List Event} {outside : σ} {ended : Ended σ}
    (hpoll : Duration.ofMillis 1 ≤ setup.watchdogPoll)
    (hrun : setup.run o calendar stopAt events outside = some ended) :
    Supervised setup ended := by
  have hpos : 0 < setup.watchdogPoll := Nat.lt_of_lt_of_le (by decide) hpoll
  have hpaced := paced_of_run hrun
  have honce := hpaced.abides_onceLaw
  have hwatched := watched_of_run hpos hrun
  have habides := hwatched.abides
  have hin_time {past : List Happening} (hsuffix : past <:+ ended.world.history)
      (hstop : ¬ Stopped past) : nextLook setup.watchdogPoll past ≤
        deadline setup.watchdogTimeout setup.watchdogPoll past :=
    nextLook_le_deadline (habides.suffix hsuffix) hpos (honce.suffix hsuffix) hstop
  have hdeadline (past : List Happening) : ∃ k,
      deadline setup.watchdogTimeout setup.watchdogPoll past = k * setup.watchdogPoll ∧
        lastPulse past + allowance setup.watchdogTimeout past < k * setup.watchdogPoll ∧
        k * setup.watchdogPoll ≤
          lastPulse past + allowance setup.watchdogTimeout past + setup.watchdogPoll :=
    ⟨_, rfl, lt_deadline hpos, deadline_le⟩
  exact {
    paced := hpaced
    look_time := fun k look hk => time_of_look habides hpos hk
    look_knows := fun look hlook => lastPulse_le_look habides hpos hlook
    look_misses := fun t past hsuffix look hlook => look_le_pulse habides hpos hsuffix hlook
    trips_iff := stopped_iff_first_late habides hpos
    spared := fun hall t hmem => by
      obtain ⟨later, past, heq⟩ := List.append_of_mem hmem
      have hsuffix : .mark (.stopped .watchdog t) :: past <:+ ended.world.history :=
        heq ▸ List.suffix_append later _
      obtain ⟨k, hk, -⟩ := hdeadline past
      rw [tripped_at_deadline habides hpos honce hsuffix, hk] at hmem
      obtain ⟨⟨look, hlook, hlate⟩, -⟩ := (stopped_iff_first_late habides hpos k).1 hmem
      exact hall look (List.mem_of_getElem? hlook) hlate
    trip_at_deadline := fun t past hsuffix => tripped_at_deadline habides hpos honce hsuffix
    pulse_in_time := fun t past hsuffix hstop =>
      Nat.le_trans ((habides _ _ hsuffix).2.2 hstop)
        (hin_time ((List.suffix_cons _ past).trans hsuffix) hstop)
    stop_in_time := fun who t past hsuffix =>
      Nat.le_trans (habides _ _ hsuffix).2.2.1
        (hin_time ((List.suffix_cons _ past).trans hsuffix) (habides _ _ hsuffix).1)
    end_in_time := fun hstop => by
      -- the supervisor still has a look to come
      obtain ⟨tick, htick⟩ := World.exists_nextTick
        (Bool.eq_false_iff.2 (mt hwatched.coherent.1.1 hstop))
      have hnow := hwatched.now_le tick htick
      rw [hwatched.tick_eq tick htick] at hnow
      exact Nat.le_trans hnow (hin_time List.suffix_rfl hstop)
    deadline_spec := hdeadline
    outcome_eq := fun htripped => by
      obtain ⟨course⟩ := exists_course hrun
      rw [course.outcome_eq, World.verdict, if_pos (hwatched.tripped_iff.2 htripped),
        hwatched.timeout_eq] }

/-- An event whose element is never found, since the browser does not answer. -/
def searchingEvents : List Event := [{ kind := .markup .div, name := "div" }]

theorem supervised_smallRun : ∃ ended, Setup.smallRun [] none searchingEvents = some ended ∧
    Happening.mark (.stopped .watchdog (.ofSecs 8)) ∈ ended.world.history ∧
    Supervised Setup.small ended := by
  have hrun : Setup.smallRun [] none searchingEvents =
      some ((Setup.smallRun [] none searchingEvents).get rfl) := (Option.some_get _).symm
  exact ⟨_, hrun, List.mem_of_getElem? (i := 7) rfl, supervised_of_run (by decide) hrun⟩

end PageScript
