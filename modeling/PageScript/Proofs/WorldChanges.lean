import PageScript.Run.Supervised

/-!
# How a world elapses

Whatever a world lives through while a step is taken comes down to a few small changes: a record is
put into the log, the run is stopped, time passes while the supervisor looks on in vain, the
watchdog trips, the owner leaves, and the outside takes a new state. `World.Elapses` is the order
that they generate, and every operation of a world is shown once to keep to it. What holds of each
small change then holds of every step, every wait and every end of a run.

Time passes only up to the supervisor's next look, and no look that it passes by would have found
the watchdog expired. That is said only of a world that ticks: the supervisor looks at intervals of
some length, and the clock has not run past its next look.
-/

namespace PageScript

/-- Who may stop the run in the course of a step: anyone but the run itself, and if the step heeds
the stop and is answered all the same, only the outside. -/
def Guard.admits (g : Guard) (answered : Bool) (who : Stopper) : Prop :=
  (g.heedsStop = true → answered = true → who = .outside) ∧ ∀ insider, who ≠ .inside insider

namespace World

variable {σ : Type} {ok : Stopper → Prop} {w w' w'' : World σ}

/-- The supervisor looks at intervals of some length, and none of its looks lies behind. -/
def Ticking (w : World σ) : Prop :=
  0 < w.poll ∧ ∀ tick, w.nextTick = some tick → w.now ≤ tick

/-- Each look before the given one comes up to a point of time and finds the watchdog not expired;
the given one does not come before it. -/
def InVain (w : World σ) (due next : Duration) : Prop :=
  ∀ tick, w.nextTick = some tick → due ≤ next ∧ ∃ k, next = tick + k * w.poll ∧
    ∀ j < k, tick + j * w.poll ≤ due ∧ w.watchdog.expired (tick + j * w.poll) = false

/-- One world comes after another by small changes; whoever stops the run meanwhile is as said. -/
inductive Elapses (ok : Stopper → Prop) (w : World σ) : World σ → Prop where
  | refl : Elapses ok w w
  | records {w' : World σ} (r : Record) : Elapses ok w w' → Elapses ok w (w'.say (.record r))
  /-- Someone other than the watchdog stops the run. -/
  | stops {w' : World σ} (who : Stopper) : who ≠ .watchdog → ok who → Elapses ok w w' →
      Elapses ok w (w'.stop who)
  /-- Time passes, and the supervisor looks in vain. -/
  | passes {w' : World σ} (due next : Duration) : w'.now ≤ due →
      (w'.Ticking → w'.InVain due next) → Elapses ok w w' →
      Elapses ok w ((w'.lookUntil next).atTime due)
  | trips {w' : World σ} : ok .watchdog →
      (w'.Ticking → w'.nextTick = some w'.now ∧ w'.watchdog.expired w'.now = true) →
      Elapses ok w w' → Elapses ok w w'.trip
  | leaves {w' : World σ} : Elapses ok w w' → Elapses ok w w'.withoutOwner
  | acts {w' : World σ} (s : σ) : Elapses ok w w' → Elapses ok w (w'.withOutside s)

namespace Elapses

theorem mono {ok' : Stopper → Prop} (h : w.Elapses ok w') (imp : ∀ who, ok who → ok' who) :
    w.Elapses ok' w' := by
  induction h with
  | refl => exact .refl
  | records r _ ih => exact ih.records r
  | stops who hne hok _ ih => exact ih.stops who hne (imp who hok)
  | passes due next hnow hvain _ ih => exact ih.passes due next hnow hvain
  | trips hok hexp _ ih => exact ih.trips (imp _ hok) hexp
  | leaves _ ih => exact ih.leaves
  | acts s _ ih => exact ih.acts s

theorem trans (h : w.Elapses ok w') (h' : w'.Elapses ok w'') : w.Elapses ok w'' := by
  induction h' with
  | refl => exact h
  | records r _ ih => exact ih.records r
  | stops who hne hok _ ih => exact ih.stops who hne hok
  | passes due next hnow hvain _ ih => exact ih.passes due next hnow hvain
  | trips hok hexp _ ih => exact ih.trips hok hexp
  | leaves _ ih => exact ih.leaves
  | acts s _ ih => exact ih.acts s

end Elapses

theorem elapses_stop (ok : Stopper → Prop) {who : Insider} (hok : ok (.inside who)) :
    w.Elapses ok (w.stop (.inside who)) :=
  Elapses.refl.stops _ (by simp) hok

/-! ## Looks of the supervisor -/

theorem expired_iff (d : Watchdog) (t : Duration) :
    d.expired t = true ↔ d.lastPulse + d.allowance < t := by
  simp only [Watchdog.expired, Watchdog.idle]
  lia

/-- The first look that finds the watchdog expired is one of the looks to come. -/
theorem firstTrip_eq (w : World σ) (tick : Duration) :
    ∃ k, w.firstTrip tick = tick + k * w.poll := by
  unfold firstTrip
  dsimp only
  split
  · exact ⟨0, by lia⟩
  · exact ⟨_, rfl⟩

theorem expired_firstTrip (hpoll : 0 < w.poll) (tick : Duration) :
    w.watchdog.expired (w.firstTrip tick) = true := by
  rw [expired_iff]
  unfold firstTrip
  dsimp only
  split
  · assumption
  · have := Nat.lt_mul_div_succ (w.watchdog.lastPulse + w.watchdog.allowance - tick) hpoll
    rw [Nat.mul_comm] at this
    lia

/-- No look before it finds the watchdog expired. -/
theorem expired_of_lt_firstTrip (hpoll : 0 < w.poll) {tick : Duration} {j : Nat}
    (h : tick + j * w.poll < w.firstTrip tick) :
    w.watchdog.expired (tick + j * w.poll) = false := by
  rw [Bool.eq_false_iff, ne_eq, expired_iff]
  intro hlast
  unfold firstTrip at h
  dsimp only at h
  split at h
  · lia
  · have hlt : (w.watchdog.lastPulse + w.watchdog.allowance - tick) / w.poll < j :=
      (Nat.div_lt_iff_lt_mul hpoll).2 (by lia)
    have := Nat.mul_le_mul_right w.poll (Nat.succ_le_of_lt hlt)
    rw [Nat.succ_eq_add_one] at this
    lia

/-- The looks before `tickFrom` are those before the point of time or, if asked for, at it. -/
theorem tickFrom_spec (hpoll : 0 < w.poll) (tick due : Duration) (past : Bool) :
    due ≤ w.tickFrom tick due past ∧ ∃ k, w.tickFrom tick due past = tick + k * w.poll ∧
      ∀ j < k, tick + j * w.poll < due ∨ past = true ∧ tick + j * w.poll = due := by
  -- the first look that does not come before the point of time
  have hfirst : ∃ k, (if due ≤ tick then tick
        else tick + (due - tick + w.poll - 1) / w.poll * w.poll) = tick + k * w.poll ∧
      due ≤ tick + k * w.poll ∧ ∀ j < k, tick + j * w.poll < due := by
    split
    · exact ⟨0, by lia, by lia, by lia⟩
    · refine ⟨_, rfl, ?_, ?_⟩
      · have := Nat.lt_mul_div_succ (due - tick + w.poll - 1) hpoll
        rw [Nat.mul_succ, Nat.mul_comm] at this
        lia
      · intro j hj
        have := (Nat.le_div_iff_mul_le hpoll).1 (Nat.succ_le_of_lt hj)
        rw [Nat.succ_mul] at this
        lia
  obtain ⟨k, hk, hdue, hall⟩ := hfirst
  unfold tickFrom
  dsimp only
  rw [hk]
  split
  · rename_i hpast
    simp only [Bool.and_eq_true, beq_iff_eq] at hpast
    refine ⟨by lia, k + 1, by rw [Nat.succ_mul]; lia, fun j hj => ?_⟩
    rcases Nat.lt_succ_iff_lt_or_eq.1 hj with hlt | rfl
    · exact .inl (hall j hlt)
    · exact .inr hpast
  · exact ⟨hdue, k, rfl, fun j hj => .inl (hall j hj)⟩

/-! ## Alarms -/

theorem comesBefore_false {t due : Duration} {first : Bool}
    (h : comesBefore t first (some due) = false) : due ≤ t ∧ (first = true → due < t) := by
  simp only [comesBefore, Bool.or_eq_false_iff, decide_eq_false_iff_not, Bool.and_eq_false_imp,
    beq_eq_false_iff_ne, ne_eq] at h
  exact ⟨by lia, fun hf => by have := h.2 hf; lia⟩

theorem comesBefore_true {t due : Duration} {first : Bool}
    (h : comesBefore t first (some due) = true) : t ≤ due := by
  simp only [comesBefore, Bool.or_eq_true, decide_eq_true_eq, Bool.and_eq_true, beq_iff_eq] at h
  lia

/-- What an alarm says of the looks to come and of the owner. -/
theorem alarm?_cases (w : World σ) (due : Option Duration) (first : Bool) :
    match w.alarm? due first with
    | none => ∀ tick, w.nextTick = some tick → comesBefore (w.firstTrip tick) first due = false
    | some (.owner s) => w.stopAt = some s ∧ comesBefore s true due = true ∧
        ∀ tick, w.nextTick = some tick →
          s ≤ w.firstTrip tick ∨ comesBefore (w.firstTrip tick) first due = false
    | some (.trip k) => ∃ tick, w.nextTick = some tick ∧ k = w.firstTrip tick ∧
        comesBefore k first due = true ∧ ∀ s, w.stopAt = some s → comesBefore s true due = true →
          k < s := by
  unfold alarm?
  rcases hs : w.stopAt with _ | s <;> rcases ht : w.nextTick with _ | tick
  · simp
  · cases hk : comesBefore (w.firstTrip tick) first due <;> simp [Option.filter, hk]
  · cases ho : comesBefore s true due <;> simp [Option.filter, ho]
  · cases ho : comesBefore s true due <;> cases hk : comesBefore (w.firstTrip tick) first due
    · simp [Option.filter, ho, hk]
    · simp [Option.filter, ho, hk]
    · simp [Option.filter, ho, hk]
    · by_cases hle : s ≤ w.firstTrip tick
      · simp [Option.filter, ho, hk, hle]
      · simp [Option.filter, ho, hk, hle]
        lia

/-! ## Time that passes -/

theorem Elapses.ownerStops (hok : ok .owner) (h : w.Elapses ok w') :
    w.Elapses ok w'.ownerStops :=
  ((h.stops _ (by decide) hok).leaves).records _

theorem firstTrip_ge (w : World σ) (tick : Duration) : tick ≤ w.firstTrip tick := by
  obtain ⟨k, hk⟩ := w.firstTrip_eq tick
  lia

/-- A point of time comes if no look before it would find the watchdog expired. -/
theorem elapses_reach {due : Duration} {past : Bool} (hnow : w.now ≤ due)
    (hvain : w.Ticking → ∀ tick, w.nextTick = some tick →
      comesBefore (w.firstTrip tick) past (some due) = false) :
    w.Elapses ok (w.reach due past) := by
  unfold reach
  cases hn : w.nextTick with
  | none =>
    have hpass : w.Elapses ok ((w.lookUntil due).atTime due) :=
      Elapses.refl.passes _ _ hnow fun _ _ h => by rw [hn] at h; cases h
    rwa [lookUntil_of_isStopped (nextTick_eq_none_iff.1 hn)] at hpass
  | some tick =>
    refine Elapses.refl.passes _ _ hnow fun hticks tick' htick' => ?_
    obtain rfl : tick = tick' := by rw [hn] at htick'; exact Option.some.inj htick'
    obtain ⟨hdue, k, hk, hall⟩ := w.tickFrom_spec hticks.1 tick due past
    have hbefore := comesBefore_false (hvain hticks tick hn)
    refine ⟨hdue, k, hk, fun j hj => ?_⟩
    rcases hall j hj with hlt | ⟨hpast, heq⟩
    · exact ⟨by lia, expired_of_lt_firstTrip hticks.1 (by lia)⟩
    · exact ⟨by lia, expired_of_lt_firstTrip hticks.1 (by have := hbefore.2 hpast; lia)⟩

theorem elapses_sound_owner {t : Duration} (hok : ok .owner)
    (hvain : ∀ tick, w.nextTick = some tick → t ≤ w.firstTrip tick) :
    w.Elapses ok (w.sound (.owner t)) := by
  refine (elapses_reach (by lia) fun hticks tick htick => ?_).ownerStops hok
  have hnow := hticks.2 tick htick
  have hge := w.firstTrip_ge tick
  have hle := hvain tick htick
  simp only [comesBefore, Bool.false_and, Bool.or_false, decide_eq_false_iff_not]
  lia

theorem elapses_sound_trip {tick : Duration} (hok : ok .watchdog) (htick : w.nextTick = some tick) :
    w.Elapses ok (w.sound (.trip (w.firstTrip tick))) := by
  have hge := w.firstTrip_ge tick
  have hnext := nextTick_lookUntil htick hge
  refine Elapses.trips hok (fun hticks => ?_)
    (Elapses.refl.passes _ _ (by lia) fun hticks tick' htick' => ?_)
  · have hpoll : 0 < w.poll := by simpa using hticks.1
    have hnow : max w.now (w.firstTrip tick) = w.firstTrip tick := by
      have := hticks.2 _ hnext
      rw [now_atTime] at this
      lia
    simp only [nextTick_atTime, now_atTime, watchdog_atTime, watchdog_lookUntil, hnow]
    exact ⟨hnext, expired_firstTrip hpoll tick⟩
  · obtain rfl : tick = tick' := by rw [htick] at htick'; exact Option.some.inj htick'
    have hnow := hticks.2 tick htick
    obtain ⟨k, hk⟩ := w.firstTrip_eq tick
    refine ⟨by lia, k, hk, fun j hj => ?_⟩
    have := Nat.mul_lt_mul_of_pos_right hj hticks.1
    exact ⟨by lia, expired_of_lt_firstTrip hticks.1 (by lia)⟩

/-- The time of an alarm comes with no look before it that would find the watchdog expired. -/
theorem elapses_sound {due : Option Duration} {first : Bool} {alarm : Alarm}
    (hok : ok .owner) (hok' : ok .watchdog) (h : w.alarm? due first = some alarm) :
    w.Elapses ok (w.sound alarm) := by
  have hcases := w.alarm?_cases due first
  rw [h] at hcases
  cases alarm with
  | owner s =>
    obtain ⟨-, hs, hall⟩ := hcases
    refine elapses_sound_owner hok fun tick htick => ?_
    rcases hall tick htick with hle | hlate
    · exact hle
    · cases due with
      | none => cases hlate
      | some d =>
        have := comesBefore_true hs
        have := (comesBefore_false hlate).1
        lia
  | trip k =>
    obtain ⟨tick, htick, rfl, -⟩ := hcases
    exact elapses_sound_trip hok' htick

/-! ## Waits and steps -/

/-- A wait lasts until it is due, or until the time of an alarm. -/
theorem elapses_await {g : Guard} {own : Option Duration}
    (hown : ∀ t, own = some t → w.now ≤ t) :
    w.Elapses (g.admits (w.await g own).1.isNone) (w.await g own).2 := by
  unfold await
  split
  · exact .refl
  rename_i hlimit
  split
  · exact .refl
  dsimp only
  -- the wait is due no earlier than now
  have hdue : ∀ t, earlier own (g.limit?.map (·.due)) = some t → w.now ≤ t := by
    intro t ht
    cases ho : own <;> cases hl : g.limit? <;> simp_all [earlier] <;> lia
  have hcases := w.alarm?_cases (earlier own (g.limit?.map (·.due)))
    (w.tickFirst g own (earlier own (g.limit?.map (·.due))))
  generalize earlier own (g.limit?.map (·.due)) = due at hdue hcases
  cases halarm : w.alarm? due (w.tickFirst g own due) with
  | none =>
    rw [halarm] at hcases
    cases due with
    | none => exact .refl
    | some t => exact elapses_reach (hdue t rfl) fun _ => hcases
  | some alarm =>
    have hsound : w.Elapses (g.admits false) (w.sound alarm) :=
      elapses_sound (by simp [Guard.admits]) (by simp [Guard.admits]) halarm
    dsimp only
    split
    · exact hsound
    rename_i hheeds
    have hadmits : w.Elapses (g.admits ((w.sound alarm).arrive g own due).1.isNone)
        (w.sound alarm) :=
      hsound.mono fun _ hwho => ⟨fun hheed => absurd hheed hheeds, hwho.2⟩
    -- the wait goes on to its end, which the alarm does not come after
    cases due with
    | none => exact hadmits
    | some t =>
      refine hadmits.trans (elapses_reach ?_ fun _ tick htick => ?_)
      · rw [halarm] at hcases
        rw [now_sound]
        cases alarm with
        | owner s => exact Nat.max_le.2 ⟨hdue t rfl, comesBefore_true hcases.2.1⟩
        | trip k =>
          obtain ⟨_, -, -, hk, -⟩ := hcases
          exact Nat.max_le.2 ⟨hdue t rfl, comesBefore_true hk⟩
      · rw [nextTick_eq_none_iff.2 (isStopped_sound w alarm)] at htick
        cases htick

theorem le_wake (now d : Duration) : now ≤ Duration.wake now d := Nat.le_max_left _ _

/-- A sleep never takes longer than it is asked to: what stands in for a point of time beyond the
clock comes before it. -/
theorem wake_le (now d : Duration) : Duration.wake now d ≤ now + d := by
  have hend : Duration.sleepsEnd ≤ Duration.clockEnd := by decide
  refine Nat.max_le.2 ⟨Nat.le_add_right now d, ?_⟩
  unfold Duration.after
  split
  · exact Nat.min_le_left _ _
  · rename_i hlate
    exact Nat.le_trans (Nat.min_le_right _ _) (Nat.le_trans hend (Nat.le_of_not_lt hlate))

theorem elapses_sleep (g : Guard) (d : Duration) (w : World σ) :
    w.Elapses (g.admits (w.sleep g d).1.isNone) (w.sleep g d).2 := by
  unfold sleep
  split
  · exact .refl
  · exact elapses_await fun t ht => by cases ht; exact le_wake _ _

/-- Waiting for ever only ends where it is given up. -/
theorem elapses_hang (g : Guard) (w : World σ) :
    w.Elapses (g.admits false) (w.hang g).2 := by
  have hawait : w.Elapses (g.admits (w.await g none).1.isNone) (w.await g none).2 :=
    elapses_await fun _ ht => by cases ht
  exact hawait.mono fun _ hwho => ⟨fun _ h => (by cases h), hwho.2⟩

/-- The stops that come while part of a step is answered may come in the course of all of it. -/
theorem admits_of_answered {g : Guard} {answered : Bool} {who : Stopper} (h : g.admits true who) :
    g.admits answered who :=
  ⟨fun hheeds _ => h.1 hheeds rfl, h.2⟩

theorem elapses_live (g : Guard) (beats : List Beat) (w : World σ) :
    w.Elapses (g.admits (w.live g beats).1.isNone) (w.live g beats).2 := by
  induction beats generalizing w with
  | nil => exact .refl
  | cons beat beats ih =>
    cases beat with
    | rest d =>
      have hsleep := elapses_sleep g d w
      unfold live
      rcases hres : w.sleep g d with ⟨_ | cut, w'⟩ <;> rw [hres] at hsleep
      · exact (hsleep.mono fun _ => admits_of_answered).trans (ih w')
      · exact hsleep
    | giveWay =>
      have hawait : w.Elapses (g.admits (w.await g (some w.now)).1.isNone)
          (w.await g (some w.now)).2 := elapses_await fun t ht => by cases ht; exact Nat.le_refl _
      unfold live
      rcases hres : w.await g (some w.now) with ⟨_ | cut, w'⟩ <;> rw [hres] at hawait
      · exact (hawait.mono fun _ => admits_of_answered).trans (ih w')
      · exact hawait
    | stop =>
      have hwho : g.admits ((w.stop .outside).live g beats).1.isNone .outside :=
        ⟨fun _ _ => rfl, fun _ heq => by cases heq⟩
      exact (Elapses.refl.stops .outside (by decide) hwho).trans (ih _)
    | note r => exact (Elapses.refl.records r).trans (ih _)

theorem elapses_act (o : Outside σ) (g : Guard) (a : Action) (w : World σ) :
    (w.noteCall a).Elapses (g.admits (w.act o g a).1.toBool) (w.act o g a).2 := by
  have hstart : (w.noteCall a).Elapses (g.admits (w.act o g a).1.toBool)
      ((w.noteCall a).withOutside (o a w.outside).start) := Elapses.refl.acts _
  refine hstart.trans ?_
  have hlive := elapses_live g (o a w.outside).beats
    ((w.noteCall a).withOutside (o a w.outside).start)
  unfold act
  dsimp only
  rcases hres : ((w.noteCall a).withOutside (o a w.outside).start).live g (o a w.outside).beats
    with ⟨_ | cut, w'⟩ <;> rw [hres] at hlive <;> dsimp only
  · cases (o a w.outside).ending with
    | some p => exact (hlive.mono fun _ => admits_of_answered).acts _
    | none => exact (hlive.mono fun _ => admits_of_answered).trans (elapses_hang g w')
  · exact hlive

/-- Notes the call that a step makes, if it makes one. -/
def noteStep (w : World σ) : Step → World σ
  | .act a => w.noteCall a
  | _ => w

/-- **What a step does to a world.** -/
theorem elapses_step (o : Outside σ) (g : Guard) (w : World σ) (s : Step) :
    (w.noteStep s).Elapses (g.admits (w.step o g s).1.toBool) (w.step o g s).2 := by
  cases s with
  | act a => exact elapses_act o g a w
  | sleep d =>
    have hsleep := elapses_sleep g d w
    unfold step
    rcases hres : w.sleep g d with ⟨_ | cut, w'⟩ <;> rw [hres] at hsleep <;> dsimp only <;>
      rw [hres] <;> exact hsleep
  | forever => exact elapses_hang g w

/-! ## From the start of a run to its end -/

theorem elapses_start (setup : Setup) (calendar : Calendar) (stopAt : Option Duration)
    (outside : σ) : (dawn setup calendar stopAt outside).Elapses (· = .owner)
      (start setup calendar stopAt outside) := by
  unfold start
  dsimp only
  split
  · exact Elapses.refl.ownerStops rfl
  · rw [← atTime_now (lookUntil _ _), now_lookUntil]
    refine Elapses.refl.passes _ _ (Nat.le_refl _) fun _ tick htick => ?_
    cases htick
    refine ⟨Nat.zero_le _, 1, by simp [dawn], fun j hj => ?_⟩
    obtain rfl : j = 0 := by lia
    simp [dawn, Watchdog.create, Watchdog.expired, Watchdog.idle]

theorem elapses_settle (w : World σ) : w.Elapses (· = .watchdog) w.settle := by
  unfold settle
  cases hn : w.nextTick with
  | none => exact .refl
  | some tick =>
    dsimp only
    split
    · rename_i hle
      have hnow : w.Ticking → tick = w.now := fun hticks => Nat.le_antisymm hle (hticks.2 tick hn)
      split
      · rename_i hexp
        exact Elapses.refl.trips rfl fun hticks => ⟨by rw [hn, hnow hticks], hexp⟩
      · rename_i hexp
        refine elapses_reach (Nat.le_refl _) fun hticks tick' htick' => ?_
        obtain rfl : tick = tick' := by rw [hn] at htick'; exact Option.some.inj htick'
        have hge := w.firstTrip_ge tick
        have hexpired := expired_firstTrip hticks.1 tick
        have hne : w.firstTrip tick ≠ w.now := fun heq => hexp (heq ▸ hexpired)
        have := hnow hticks
        simp only [comesBefore, Bool.or_eq_false_iff, decide_eq_false_iff_not, Bool.true_and,
          beq_eq_false_iff_ne]
        exact ⟨by lia, hne⟩
    · exact .refl

theorem elapses_awaitOwner (w : World σ) :
    w.Elapses (fun who => who = .owner ∨ who = .watchdog) w.awaitOwner := by
  unfold awaitOwner
  cases hs : w.stopAt with
  | none => exact .refl
  | some s =>
    have hcases := w.alarm?_cases none true
    dsimp only
    rcases halarm : w.alarm? none true with _ | ⟨s' | k⟩ <;> rw [halarm] at hcases
    · exact elapses_sound_owner (.inl rfl) fun tick htick => by cases hcases tick htick
    · obtain ⟨hs', -, hall⟩ := hcases
      obtain rfl : s = s' := by rw [hs] at hs'; exact Option.some.inj hs'
      refine elapses_sound_owner (.inl rfl) fun tick htick => ?_
      rcases hall tick htick with hle | hlate
      · exact hle
      · cases hlate
    · obtain ⟨tick, htick, rfl, -, hlt⟩ := hcases
      have hsound : w.Elapses (fun who => who = .owner ∨ who = .watchdog)
          (w.sound (.trip (w.firstTrip tick))) := elapses_sound_trip (.inr rfl) htick
      have hstop := isStopped_sound w (.trip (w.firstTrip tick))
      refine Elapses.ownerStops (.inl rfl) ?_
      have hpass := hsound.passes (max w.now s) (max w.now s) ?_ fun _ tick' htick' => ?_
      · rwa [lookUntil_of_isStopped hstop] at hpass
      · have := hlt s hs rfl
        rw [now_sound, Alarm.due]
        lia
      · rw [nextTick_eq_none_iff.2 hstop] at htick'
        cases htick'

end World
end PageScript
