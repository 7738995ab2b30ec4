import PageScript.Proofs.RunOutcomes
import PageScript.Proofs.Supervision

/-!
# Runs that are done but not waited for

Nobody tells the supervisor that the worker of a run is done until the owner waits for the run. Up to
then the supervisor looks on, while there are no more signs of progress; so at the deadline of the
run it finds the watchdog expired and stops the run, which has then failed whatever its worker came
to. A run is forsaken if its deadline comes before its owner does, or at the very instant at which
its worker is done. A run that has been stopped before its worker was done is never forsaken, since
then there is no supervisor any more.
-/

namespace PageScript

variable {σ : Type}

namespace World

variable {timeout poll : Duration} {w : World σ}

/-- The first look that would find the watchdog expired is the deadline. -/
theorem Watched.firstTrip_eq (h : w.Watched timeout poll) (hpoll : 0 < poll)
    (honce : Abides onceLaw w.history) {tick : Duration} (htick : w.nextTick = some tick) :
    w.firstTrip tick = deadline timeout poll w.history := by
  have hstop : ¬ Stopped w.history := h.not_stopped (by simp [isStopped, htick])
  have hle := nextLook_le_deadline h.abides hpoll honce hstop
  have hlast : w.watchdog.lastPulse + w.watchdog.allowance =
      lastPulse w.history + allowance timeout w.history := by
    rw [Watchdog.allowance, allowance, h.timeout_eq, h.lastPulse_eq, h.extension_eq]
  obtain rfl := h.tick_eq tick htick
  rw [deadline, nextLook] at hle
  have hcount := Nat.le_of_mul_le_mul_right hle hpoll
  unfold firstTrip deadline nextLook
  dsimp only
  rw [hlast, h.poll_eq]
  generalize lastPulse w.history + allowance timeout w.history = last at hcount
  generalize (looks poll w.history).length = n at hcount
  split
  · rename_i hlate
    -- the deadline does not come before the look either
    have := (Nat.div_lt_iff_lt_mul hpoll).2 hlate
    rw [Nat.le_antisymm hcount (Nat.succ_le_of_lt this)]
  · rename_i hlate
    have hn : n ≤ last / poll := (Nat.le_div_iff_mul_le hpoll).2 (Nat.le_of_not_lt hlate)
    rw [Nat.mul_comm n poll, Nat.sub_mul_div, Nat.mul_comm poll n, ← Nat.add_mul]
    congr 1
    lia

/-! ## What is left of a run whose worker is done -/

/-- While a run that has not been stopped is not waited for, its deadline comes: at the instant at
which its worker is done, or before the owner stops it. -/
structure Forsaken (timeout poll : Duration) (w : World σ) : Prop where
  not_stopped : ¬ Stopped w.history
  deadline_comes : deadline timeout poll w.history ≤ w.now ∨
    ∃ s, w.stopAt = some s ∧ deadline timeout poll w.history < s

theorem watchdog_ownerStops (w : World σ) : w.ownerStops.watchdog = w.watchdog := by
  rw [ownerStops, say_eq, watchdog_tell, watchdog_withoutOwner, watchdog_stop]

theorem watchdog_reach (w : World σ) (due : Duration) (tickFirst : Bool) :
    (w.reach due tickFirst).watchdog = w.watchdog := by
  unfold reach
  split
  · rw [watchdog_atTime, watchdog_lookUntil]
  · rfl

theorem stopAt_lookUntil (w : World σ) (next : Duration) :
    (w.lookUntil next).stopAt = w.stopAt := by
  unfold lookUntil
  split
  · split <;> rfl
  · rfl

theorem stopAt_reach (w : World σ) (due : Duration) (tickFirst : Bool) :
    (w.reach due tickFirst).stopAt = w.stopAt := by
  unfold reach
  split
  · exact stopAt_lookUntil w _
  · rfl

theorem isStopped_trip (w : World σ) : w.trip.isStopped = true := by
  rw [World.trip, say_eq, isStopped_tell, isStopped_stop]

theorem tripped_trip (h : w.watchdog.expired w.now = true) : w.trip.watchdog.tripped = true := by
  rw [World.trip, say_eq, watchdog_tell, watchdog_stop, watchdog_withWatchdog,
    Watchdog.tripped_check, h, Bool.or_true]

/-- A point of time that comes leaves a run as it is, but for a look of the supervisor. -/
theorem history_reach (w : World σ) (due : Duration) (tickFirst : Bool) :
    (w.reach due tickFirst).history = w.history ∨ ∃ first next,
      (w.reach due tickFirst).history = .mark (.looked first next) :: w.history := by
  unfold reach lookUntil
  split
  · dsimp only
    split
    · exact .inr ⟨_, _, rfl⟩
    · exact .inl rfl
  · exact .inl rfl

theorem isStopped_reach (w : World σ) (due : Duration) (tickFirst : Bool) :
    (w.reach due tickFirst).isStopped = w.isStopped := by
  unfold reach lookUntil isStopped
  cases htick : w.nextTick with
  | none => simp [htick]
  | some tick =>
    dsimp only
    split <;> simp [htick]

theorem deadline_reach (w : World σ) (due : Duration) (tickFirst : Bool) :
    deadline timeout poll (w.reach due tickFirst).history = deadline timeout poll w.history := by
  rcases w.history_reach due tickFirst with heq | ⟨_, _, heq⟩ <;> rw [heq]
  rfl

theorem once_reach (honce : Abides onceLaw w.history) (due : Duration) (tickFirst : Bool) :
    Abides onceLaw (w.reach due tickFirst).history := by
  rcases w.history_reach due tickFirst with heq | ⟨_, _, heq⟩ <;> rw [heq]
  · exact honce
  · exact abides_cons.2 ⟨trivial, honce⟩

/-- Once a run has been stopped, nothing that its owner does trips the watchdog. -/
theorem watchdog_awaitOwner (hstop : w.isStopped = true) :
    w.awaitOwner.watchdog = w.watchdog := by
  have htick := nextTick_eq_none_iff.2 hstop
  unfold awaitOwner
  cases howner : w.stopAt with
  | none => rfl
  | some s =>
    have halarm : w.alarm? none true = some (.owner s) := by
      simp [alarm?, htick, howner, comesBefore, Option.filter]
    rw [halarm]
    dsimp only
    rw [sound, watchdog_ownerStops, watchdog_reach]

/-- An owner who comes after the worker is done comes before the look that finds the watchdog
expired, or after it. -/
theorem awaitOwner_eq {tick s : Duration} (htick : w.nextTick = some tick)
    (howner : w.stopAt = some s) :
    w.awaitOwner = if s ≤ w.firstTrip tick then w.sound (.owner s)
      else ((w.sound (.trip (w.firstTrip tick))).atTime (max w.now s)).ownerStops := by
  have halarm : w.alarm? none true =
      some (if s ≤ w.firstTrip tick then .owner s else .trip (w.firstTrip tick)) := by
    simp [alarm?, htick, howner, comesBefore, Option.filter]
  rw [awaitOwner, howner]
  dsimp only
  rw [halarm]
  by_cases hle : s ≤ w.firstTrip tick
  · rw [if_pos hle, if_pos hle]
  · rw [if_neg hle, if_neg hle]

/-- The owner finds the watchdog tripped if the deadline comes before the owner does. -/
theorem tripped_awaitOwner (h : w.Watched timeout poll) (hpoll : 0 < poll)
    (honce : Abides onceLaw w.history) (hstop : w.isStopped = false)
    (htripped : w.watchdog.tripped = false) :
    w.awaitOwner.watchdog.tripped = true ↔
      ∃ s, w.stopAt = some s ∧ deadline timeout poll w.history < s := by
  obtain ⟨tick, htick⟩ := exists_nextTick hstop
  rw [← h.firstTrip_eq hpoll honce htick]
  cases howner : w.stopAt with
  | none =>
    rw [awaitOwner, howner]
    refine iff_of_false (by simp [htripped]) ?_
    rintro ⟨s, heq, -⟩
    cases heq
  | some s =>
    rw [awaitOwner_eq htick howner]
    split
    · rename_i hle
      rw [sound, watchdog_ownerStops, watchdog_reach]
      refine iff_of_false (by simp [htripped]) ?_
      rintro ⟨_, ⟨⟩, hlt⟩
      exact absurd hle (Nat.not_le.2 hlt)
    · rename_i hlt
      refine iff_of_true ?_ ⟨s, rfl, Nat.lt_of_not_le hlt⟩
      -- that look does not lie behind, so it is at its own time that the watchdog is checked
      have hnow := Nat.le_trans (h.now_le tick htick) (w.firstTrip_ge tick)
      rw [watchdog_ownerStops, watchdog_atTime, sound]
      refine tripped_trip ?_
      rw [watchdog_atTime, watchdog_lookUntil, now_atTime, Nat.max_eq_right hnow]
      exact w.expired_firstTrip (h.poll_eq ▸ hpoll) tick

/-- A tick that is due at the deadline trips the watchdog. -/
theorem Watched.settle_of_deadline (h : w.Watched timeout poll) (hpoll : 0 < poll)
    (honce : Abides onceLaw w.history) (hstop : w.isStopped = false)
    (hdeadline : deadline timeout poll w.history ≤ w.now) :
    w.settle = w.trip ∧ w.watchdog.expired w.now = true := by
  obtain ⟨tick, htick⟩ := exists_nextTick hstop
  rw [← h.firstTrip_eq hpoll honce htick] at hdeadline
  have hdue := Nat.le_trans (w.firstTrip_ge tick) hdeadline
  -- no tick lies behind, so this one comes at this very instant
  have hnow : w.firstTrip tick = w.now := Nat.le_antisymm hdeadline
    (Nat.le_trans (h.now_le tick htick) (w.firstTrip_ge tick))
  have hexpired := hnow ▸ w.expired_firstTrip (h.poll_eq ▸ hpoll) tick
  unfold settle
  rw [htick]
  dsimp only
  rw [if_pos hdue, if_pos hexpired]
  exact ⟨rfl, hexpired⟩

/-- A tick that is due before the deadline leaves the run as it is, but for a look. -/
theorem Watched.settle_of_lt_deadline (h : w.Watched timeout poll) (hpoll : 0 < poll)
    (honce : Abides onceLaw w.history) (hlate : w.now < deadline timeout poll w.history) :
    w.settle = w ∨ w.settle = w.reach w.now true := by
  unfold settle
  split
  · rename_i tick htick
    split
    · rename_i hdue
      obtain rfl : tick = w.now := Nat.le_antisymm hdue (h.now_le tick htick)
      rw [← h.firstTrip_eq hpoll honce htick] at hlate
      have hfresh : w.watchdog.expired (w.now + 0 * w.poll) = false :=
        w.expired_of_lt_firstTrip (h.poll_eq ▸ hpoll) (by rwa [Nat.zero_mul])
      rw [Nat.zero_mul, Nat.add_zero] at hfresh
      rw [if_neg (by rw [hfresh]; decide)]
      exact .inr rfl
    · exact .inl rfl
  · exact .inl rfl

/-- **The watchdog trips once the worker of a run is done exactly if the run is forsaken.** -/
theorem Watched.tripped_iff_forsaken (h : w.Watched timeout poll) (hpoll : 0 < poll)
    (honce : Abides onceLaw w.history) (htripped : w.watchdog.tripped = false) :
    w.settle.awaitOwner.watchdog.tripped = true ↔ w.Forsaken timeout poll := by
  cases hstop : w.isStopped with
  | true =>
    rw [settle, nextTick_eq_none_iff.2 hstop, watchdog_awaitOwner hstop]
    exact iff_of_false (by simp [htripped]) fun hf => hf.not_stopped (h.coherent.1.1 hstop)
  | false =>
    have hnot := h.not_stopped hstop
    rcases Nat.lt_or_ge w.now (deadline timeout poll w.history) with hlate | hdeadline
    · have howner : (∃ s, w.stopAt = some s ∧ deadline timeout poll w.history < s) ↔
          w.Forsaken timeout poll :=
        ⟨fun howner => ⟨hnot, .inr howner⟩,
          fun hf => hf.deadline_comes.resolve_left (Nat.not_le.2 hlate)⟩
      rw [← howner]
      have hsettled := (elapses_settle w).watched hpoll h
      rcases h.settle_of_lt_deadline hpoll honce hlate with heq | heq <;> rw [heq] at hsettled ⊢
      · exact tripped_awaitOwner hsettled hpoll honce hstop htripped
      · rw [tripped_awaitOwner hsettled hpoll (once_reach honce _ _)
          ((isStopped_reach w _ _).trans hstop) (by rw [watchdog_reach, htripped]), stopAt_reach,
          deadline_reach]
    · obtain ⟨hsettle, hexpired⟩ := h.settle_of_deadline hpoll honce hstop hdeadline
      rw [hsettle, watchdog_awaitOwner (isStopped_trip w)]
      exact iff_of_true (tripped_trip hexpired) ⟨hnot, .inl hdeadline⟩

end World

/-! ## The answer that the owner gets -/

section Runs

variable {o : Outside σ} {setup : Setup} {calendar : Calendar} {stopAt : Option Duration}
  {events : List Event} {outside : σ} {ended : Ended σ}

/-- The world when the worker of a run is done. -/
def Course.done (course : Course setup o calendar stopAt events outside ended) : World σ :=
  course.after.concluded course.result

/-- What the worker of a run takes it to have come to. -/
def Course.own (course : Course setup o calendar stopAt events outside ended) : Outcome :=
  course.after.outcome course.result

theorem Course.watched_done (course : Course setup o calendar stopAt events outside ended)
    (hpoll : 0 < setup.watchdogPoll) :
    course.done.Watched setup.watchdogTimeout setup.watchdogPoll := by
  have hopened := World.keeps_opened
    (P := World.Watched setup.watchdogTimeout setup.watchdogPoll)
    (fun r _ h => h.happen (unmarked_remark r)) (fun helapses h => helapses.watched hpoll h)
    (World.watched_dawn setup calendar stopAt outside) events
  have hafter := (hopened.leads hpoll _ _ _ course.run_main).leads hpoll _ _ _ course.run_plugins
  unfold Course.done
  cases course.result with
  | ok _ => exact hafter
  | error e => exact hafter.happen (unmarked_remark _)

theorem Course.once_done (course : Course setup o calendar stopAt events outside ended)
    (hrun : setup.run o calendar stopAt events outside = some ended) :
    Abides onceLaw course.done.history := by
  have hlater : course.done.Later ended.world := by
    rw [course.world_eq]
    exact (World.elapses_settle _).later.trans (World.elapses_awaitOwner _).later
  exact (paced_of_run hrun).abides_onceLaw.suffix hlater.history

/-- The loss of the browser and the end of the watchdog's patience have different texts: the first
character of the one is D, that of the other W. -/
theorem message_ne_watchdogExpired {e : Error} (h : e.isLoss = true) (secs : Nat) :
    e.message ≠ (Error.watchdogExpired secs).message := by
  obtain ⟨reason, rfl⟩ := Error.isLoss_iff.1 h
  change "Driver error: " ++ _ ≠ "Watchdog expired: no activity for " ++ _ ++ _
  intro heq
  have hfirst := congrArg (fun message : String => message.toList.head?) heq
  have hloss : "Driver error: ".toList = 'D' :: "river error: ".toList := rfl
  have hwatchdog : "Watchdog expired: no activity for ".toList =
    'W' :: "atchdog expired: no activity for ".toList := rfl
  simp only [String.toList_append, hloss, hwatchdog, List.cons_append, List.head?_cons,
    Option.some.injEq] at hfirst
  exact absurd hfirst (by decide)

/-- What a worker comes to is never what the watchdog makes of it. -/
theorem Course.own_ne (course : Course setup o calendar stopAt events outside ended)
    (secs : Nat) : course.own ≠ .failed (Error.watchdogExpired secs).message := by
  unfold Course.own World.outcome
  cases hresult : course.result with
  | error e =>
    intro heq
    exact message_ne_watchdogExpired (course.events_end.2.2 e hresult) secs (Outcome.failed.inj heq)
  | ok _ =>
    dsimp only
    split <;> exact fun heq => by cases heq

/-- **The owner of a run whose worker is done gets the worker's own answer exactly if the run is not
forsaken**, and otherwise is told that the watchdog has tripped. -/
theorem answer_of_run (hpoll : 0 < setup.watchdogPoll)
    (hrun : setup.run o calendar stopAt events outside = some ended) :
    Nonempty (Course setup o calendar stopAt events outside ended) ∧
    ∀ course : Course setup o calendar stopAt events outside ended,
      course.done.watchdog.tripped = false →
        (ended.outcome = course.own ↔
          ¬ course.done.Forsaken setup.watchdogTimeout setup.watchdogPoll) ∧
        (course.done.Forsaken setup.watchdogTimeout setup.watchdogPoll → ended.outcome =
          .failed (Error.watchdogExpired (Duration.secs setup.watchdogTimeout)).message) := by
  refine ⟨exists_course hrun, fun course hdone => ?_⟩
  have htripped := (course.watched_done hpoll).tripped_iff_forsaken hpoll (course.once_done hrun)
    hdone
  have hended : ended.world = course.done.settle.awaitOwner := course.world_eq
  have hfailed (h : course.done.Forsaken setup.watchdogTimeout setup.watchdogPoll) :
      ended.outcome =
        .failed (Error.watchdogExpired (Duration.secs setup.watchdogTimeout)).message := by
    rw [course.outcome_tripped (hended ▸ htripped.2 h), (watched_of_run hpoll hrun).timeout_eq]
  refine ⟨⟨?_, ?_⟩, hfailed⟩
  · intro howned h
    exact course.own_ne _ (howned.symm.trans (hfailed h))
  · intro h
    refine course.outcome_untripped (Bool.eq_false_iff.2 fun htrip => ?_)
    exact h (htripped.1 (hended ▸ htrip))

/-- What is left when the worker of a run without events is done can be computed. -/
theorem Course.done_small {stopAt : Option Duration} {ended : Ended Unit}
    (course : Course .small .oneWindow ⟨2020, 1, 1, 0, 0, 0⟩ stopAt [] () ended) {α : Type}
    (f : Outcome → World Unit → α) :
    (World.run .oneWindow (Journey.main .small [] (Setup.small.session ⟨2020, 1, 1, 0, 0, 0⟩))
        (World.opened .small ⟨2020, 1, 1, 0, 0, 0⟩ stopAt [] ())).bind (fun x =>
      (World.run .oneWindow (x.1.2.fireAfterTest .small) x.2).map fun y =>
        f (y.2.outcome x.1.1) (y.2.concluded x.1.1)) = some (f course.own course.done) := by
  rw [course.run_main, Option.bind_some, course.run_plugins]
  rfl

/-- The owner of this run comes before its deadline, and gets the answer of the worker. -/
theorem answer_smallRun : 0 < Setup.small.watchdogPoll ∧ ∃ ended,
    Setup.smallRun [] (some (.ofSecs 5)) [] = some ended ∧
    ∃ course : Course .small .oneWindow ⟨2020, 1, 1, 0, 0, 0⟩ (some (.ofSecs 5)) [] () ended,
      course.done.watchdog.tripped = false ∧ ended.outcome = course.own := by
  obtain ⟨ended, hrun, -⟩ : ∃ ended, Setup.smallRun [] (some (.ofSecs 5)) [] = some ended ∧
      ended.outcome = .completed := Option.map_eq_some_iff.1 (by decide +kernel)
  obtain ⟨⟨course⟩, hanswer⟩ := answer_of_run (by decide) hrun
  have hdone := (course.done_small fun _ w => (w.watchdog.tripped, w.now, w.stopAt,
    deadline Setup.small.watchdogTimeout Setup.small.watchdogPoll w.history)).symm.trans
      (by decide +kernel : _ = some (false, .ofSecs 0, some (.ofSecs 5), .ofSecs 8))
  simp only [Option.some.injEq, Prod.mk.injEq] at hdone
  obtain ⟨huntripped, hnow, howner, hdeadline⟩ := hdone
  refine ⟨by decide, ended, hrun, course, huntripped, (hanswer course huntripped).1.2 fun h => ?_⟩
  rcases h.deadline_comes with hpassed | ⟨s, hs, hlate⟩
  · rw [hdeadline, hnow] at hpassed
    exact absurd hpassed (by decide)
  · rw [howner, Option.some.injEq] at hs
    rw [hdeadline, ← hs] at hlate
    exact absurd hlate (by decide)

/-- The owner of this run comes after its deadline: its worker has completed it before the watchdog
has tripped, but the owner is told that the run has failed. -/
theorem answer_forsaken : ∃ ended,
    Setup.smallRun [] (some (.ofSecs 10)) [] = some ended ∧
    ended.outcome = .failed "Watchdog expired: no activity for 7 seconds" ∧
    ∃ course : Course .small .oneWindow ⟨2020, 1, 1, 0, 0, 0⟩ (some (.ofSecs 10)) [] () ended,
      course.done.watchdog.tripped = false ∧ course.own = .completed := by
  obtain ⟨ended, hrun, houtcome⟩ : ∃ ended, Setup.smallRun [] (some (.ofSecs 10)) [] = some ended ∧
      ended.outcome = .failed "Watchdog expired: no activity for 7 seconds" :=
    Option.map_eq_some_iff.1 (by decide +kernel)
  obtain ⟨course⟩ := exists_course hrun
  have hdone := (course.done_small fun own w => (w.watchdog.tripped, own)).symm.trans
    (by decide +kernel : _ = some (false, Outcome.completed))
  simp only [Option.some.injEq, Prod.mk.injEq] at hdone
  exact ⟨ended, hrun, houtcome, course, hdone⟩

end Runs
end PageScript
