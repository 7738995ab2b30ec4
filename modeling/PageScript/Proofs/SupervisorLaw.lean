import PageScript.Proofs.WatchdogLooks

/-!
# The supervisor's law

A world knows of its watchdog what its history tells, and its history keeps to the supervisor's law.
Every answer to a request keeps it so, and hence the law holds for any worker whatever, from the
start of a run to its end.
-/

namespace PageScript

namespace World

variable {σ α : Type} {o : Outside σ} {ok : Stopper → Prop} {timeout poll : Duration}
  {w w' : World σ}

/-- The world is as its history tells, and the history keeps to the supervisor's law. -/
structure Watched (timeout poll : Duration) (w : World σ) : Prop where
  abides : Abides (watchLaw timeout poll) w.history
  coherent : w.Coherent
  poll_eq : w.poll = poll
  timeout_eq : w.watchdog.timeout = timeout
  lastPulse_eq : w.watchdog.lastPulse = lastPulse w.history
  extension_eq : w.watchdog.extension = (allowed? w.history).getD 0
  /-- The supervisor looks next when all looks so far are over. -/
  tick_eq : ∀ tick, w.nextTick = some tick → tick = nextLook poll w.history
  /-- No look has been left out. -/
  now_le : ∀ tick, w.nextTick = some tick → w.now ≤ tick
  /-- No look has come too early. -/
  le_now : nextLook poll w.history ≤ w.now + poll
  lastPulse_le : lastPulse w.history ≤ w.now
  tripped_iff : w.watchdog.tripped = true ↔
    ∃ t, Happening.mark (.stopped .watchdog t) ∈ w.history

namespace Watched

theorem ticking (h : w.Watched timeout poll) (hpoll : 0 < poll) : w.Ticking :=
  ⟨h.poll_eq ▸ hpoll, h.now_le⟩

/-- The watchdog has expired exactly if its history calls that late. -/
theorem expired_iff_late (h : w.Watched timeout poll) (t : Duration) :
    w.watchdog.expired t = true ↔ Late timeout w.history t := by
  rw [expired_iff, Late, Watchdog.allowance, allowance, h.timeout_eq, h.lastPulse_eq,
    h.extension_eq]

theorem not_stopped (h : w.Watched timeout poll) (hstop : w.isStopped = false) :
    ¬ Stopped w.history :=
  h.coherent.not_stopped hstop

/-- Whatever is no mark leaves all as it was. -/
theorem happen (h : w.Watched timeout poll) {new : Happening} (hm : new.Unmarked) :
    (w.happen new).Watched timeout poll where
  abides := abides_cons.2 ⟨watchLaw_unmarked hm, h.abides⟩
  coherent := h.coherent.happen fun _ _ => hm _
  poll_eq := h.poll_eq
  timeout_eq := h.timeout_eq
  lastPulse_eq := h.lastPulse_eq.trans (lastPulse_unmarked hm).symm
  extension_eq := h.extension_eq.trans (congrArg (·.getD 0) (allowed?_unmarked hm).symm)
  tick_eq tick htick := (h.tick_eq tick htick).trans
    (nextLook_unmarked hm).symm
  now_le := h.now_le
  le_now := by
    change nextLook poll (new :: w.history) ≤ _
    rw [nextLook_unmarked hm]
    exact h.le_now
  lastPulse_le := by
    change lastPulse (new :: w.history) ≤ _
    rw [lastPulse_unmarked hm]
    exact h.lastPulse_le
  tripped_iff := by
    rw [show (w.happen new).watchdog = w.watchdog from rfl, h.tripped_iff]
    change _ ↔ ∃ t, _ ∈ new :: w.history
    simp only [List.mem_cons, Ne.symm (hm _), false_or]

/-- Someone other than the watchdog may stop the run at any time. -/
theorem stop (h : w.Watched timeout poll) {who : Stopper} (hne : who ≠ .watchdog) :
    (w.stop who).Watched timeout poll := by
  unfold World.stop
  split
  · exact h
  rename_i hstop
  rw [Bool.not_eq_true] at hstop
  obtain ⟨tick, htick⟩ := exists_nextTick hstop
  have hnow := h.now_le tick htick
  rw [h.tick_eq tick htick] at hnow
  exact {
    abides := abides_cons.2 ⟨⟨h.not_stopped hstop, h.lastPulse_le, hnow, h.le_now,
      fun heq => absurd heq hne⟩, h.abides⟩
    coherent := by simpa [World.stop, hstop] using h.coherent.stop who
    poll_eq := h.poll_eq
    timeout_eq := h.timeout_eq
    lastPulse_eq := h.lastPulse_eq
    extension_eq := h.extension_eq
    tick_eq := fun _ htick => by cases htick
    now_le := fun _ htick => by cases htick
    le_now := by
      change nextLook poll (.mark (.stopped who w.now) :: w.history) ≤ _
      rw [nextLook_stopped hne]
      exact h.le_now
    lastPulse_le := h.lastPulse_le
    tripped_iff := by
      refine h.tripped_iff.trans (exists_congr fun t => ?_)
      constructor
      · exact List.mem_cons_of_mem _
      · intro hmem
        rcases List.mem_cons.1 hmem with heq | hmem
        · cases heq
          exact absurd rfl hne
        · exact hmem }

/-- The watchdog stops the run at a look that finds it expired. -/
theorem trip (h : w.Watched timeout poll) (htick : w.nextTick = some w.now)
    (hexp : w.watchdog.expired w.now = true) : w.trip.Watched timeout poll := by
  have hstop : w.isStopped = false := by simp [isStopped, htick]
  have hnow : w.now = nextLook poll w.history := h.tick_eq _ htick
  have hcoherent : (w.withWatchdog (w.watchdog.check w.now)).Coherent := h.coherent
  have hstopped : ((w.withWatchdog (w.watchdog.check w.now)).stop .watchdog).Watched
      timeout poll := by
    have hsame : (w.withWatchdog (w.watchdog.check w.now)).isStopped = false := hstop
    have hcoherent' := hcoherent.stop .watchdog
    rw [World.stop, if_neg (by simp [hsame])] at hcoherent' ⊢
    exact {
      abides := abides_cons.2 ⟨⟨h.not_stopped hstop, h.lastPulse_le, Nat.le_of_eq hnow, h.le_now,
        fun _ => ⟨hnow, (h.expired_iff_late _).1 hexp⟩⟩, h.abides⟩
      coherent := hcoherent'
      poll_eq := h.poll_eq
      timeout_eq := h.timeout_eq
      lastPulse_eq := h.lastPulse_eq
      extension_eq := h.extension_eq
      tick_eq := fun _ htick => by cases htick
      now_le := fun _ htick => by cases htick
      le_now := by
        change nextLook poll (.mark (.stopped .watchdog w.now) :: w.history) ≤ w.now + poll
        rw [nextLook_tripped]
        exact Nat.add_le_add_right (Nat.le_of_eq hnow.symm) poll
      lastPulse_le := h.lastPulse_le
      tripped_iff := iff_of_true (by simp [hexp]) ⟨w.now, .head _⟩ }
  exact hstopped.happen (unmarked_remark _)

/-- Time may pass while the supervisor looks in vain. -/
theorem passes (h : w.Watched timeout poll) (hpoll : 0 < poll) {due next : Duration}
    (hnow : w.now ≤ due) (hvain : w.InVain due next) :
    ((w.lookUntil next).atTime due).Watched timeout poll := by
  have hstay (hdue : ∀ tick, w.nextTick = some tick → due ≤ tick) :
      (w.atTime due).Watched timeout poll :=
    { h with
      now_le := fun tick htick => hdue tick htick
      le_now := Nat.le_trans h.le_now (Nat.add_le_add_right hnow poll)
      lastPulse_le := Nat.le_trans h.lastPulse_le hnow }
  cases hn : w.nextTick with
  | none =>
    rw [lookUntil_of_isStopped (nextTick_eq_none_iff.1 hn)]
    exact hstay fun _ htick => by rw [hn] at htick; cases htick
  | some tick =>
    obtain ⟨hdue, k, hnext, hall⟩ := hvain tick hn
    rw [h.poll_eq] at hnext hall
    have hlook := h.coherent.lookUntil next
    rw [lookUntil, hn] at hlook ⊢
    dsimp only at hlook ⊢
    -- if a look comes up at all, the history tells of all of them at once
    by_cases hlt : tick < next
    · rw [if_pos hlt] at hlook ⊢
      have hfirst := h.tick_eq tick hn
      have hlaw : watchLaw timeout poll (.mark (.looked tick next)) w.history := by
        refine ⟨h.not_stopped (by simp [isStopped, hn]), hfirst, k, hnext, fun j hj => ⟨?_, ?_⟩⟩
        · have := h.lastPulse_le
          have := h.now_le tick hn
          lia
        · rw [← h.expired_iff_late, (hall j hj).2]
          decide
      have hcount : nextLook poll (.mark (.looked tick next) :: w.history) = next := by
        rw [hnext, nextLook_looked hpoll, hfirst]
      exact {
        abides := abides_cons.2 ⟨hlaw, h.abides⟩
        coherent := hlook
        poll_eq := h.poll_eq
        timeout_eq := h.timeout_eq
        lastPulse_eq := h.lastPulse_eq
        extension_eq := h.extension_eq
        tick_eq := fun _ htick => by cases htick; exact hcount.symm
        now_le := fun _ htick => by cases htick; exact hdue
        le_now := by
          change nextLook poll (.mark (.looked tick next) :: w.history) ≤ due + poll
          rw [hcount]
          -- the last look that is passed by comes no later than the time that is reached
          rcases k with _ | k
          · lia
          · have := (hall k (Nat.lt_succ_self k)).1
            rw [Nat.succ_mul] at hnext
            lia
        lastPulse_le := Nat.le_trans h.lastPulse_le hnow
        tripped_iff := h.tripped_iff.trans (by simp) }
    · rw [if_neg hlt]
      exact hstay fun tick' htick' => by rw [hn] at htick'; cases htick'; lia

/-- The watchdog is told of progress. -/
theorem pulse (h : w.Watched timeout poll) :
    w.pulse.Watched timeout poll where
  abides := by
    refine abides_cons.2 ⟨⟨h.lastPulse_le, h.le_now, fun hstop => ?_⟩, h.abides⟩
    obtain ⟨tick, htick⟩ := exists_nextTick (Bool.eq_false_iff.2 (mt h.coherent.1.1 hstop))
    exact h.tick_eq tick htick ▸ h.now_le tick htick
  coherent := h.coherent.happen fun _ _ heq => by cases heq
  poll_eq := h.poll_eq
  timeout_eq := h.timeout_eq
  lastPulse_eq := rfl
  extension_eq := rfl
  tick_eq tick htick := (h.tick_eq tick htick).trans (nextLook_pulsed w.now).symm
  now_le := h.now_le
  le_now := by simpa using h.le_now
  lastPulse_le := Nat.le_refl _
  tripped_iff := h.tripped_iff.trans (by simp)

/-- The watchdog allows more time. -/
theorem extend (h : w.Watched timeout poll) (d : Duration) :
    (w.extend d).Watched timeout poll where
  abides := abides_cons.2 ⟨trivial, h.abides⟩
  coherent := h.coherent.happen fun _ _ heq => by cases heq
  poll_eq := h.poll_eq
  timeout_eq := h.timeout_eq
  lastPulse_eq := h.lastPulse_eq
  extension_eq := rfl
  tick_eq tick htick := (h.tick_eq tick htick).trans (nextLook_extended d).symm
  now_le := h.now_le
  le_now := by simpa using h.le_now
  lastPulse_le := h.lastPulse_le
  tripped_iff := h.tripped_iff.trans (by simp)

end Watched

theorem Elapses.watched (h : w.Elapses ok w') (hpoll : 0 < poll) (hw : w.Watched timeout poll) :
    w'.Watched timeout poll := by
  induction h with
  | refl => exact hw
  | records r _ ih => exact ih.happen (unmarked_remark _)
  | stops who hne _ _ ih => exact ih.stop hne
  | passes due next hnow hvain _ ih => exact ih.passes hpoll hnow (hvain (ih.ticking hpoll))
  | trips _ hexp _ ih =>
    obtain ⟨htick, hexp⟩ := hexp (ih.ticking hpoll)
    exact ih.trip htick hexp
  | leaves _ ih => exact { ih with }
  | acts s _ ih => exact { ih with }

theorem Watched.answer (hw : w.Watched timeout poll) (hpoll : 0 < poll) {r : Request}
    {x : r.Answer} (h : w.answer o r = some (x, w')) : w'.Watched timeout poll := by
  cases r with
  | step g s =>
    obtain rfl : (w.step o g s).2 = w' := congrArg (·.2) (Option.some.inj h)
    refine (elapses_step o g w s).watched hpoll ?_
    rcases s with (_ | _ | _ | _ | _) | _ | _ <;>
      first | exact hw | exact hw.happen fun _ heq => by cases heq
  | say r => cases h; exact hw.happen (unmarked_remark r)
  | tell s => cases h; exact hw.happen fun _ heq => by cases heq
  | stop who => cases h; exact hw.stop (by simp)
  | pulse => cases h; exact hw.pulse
  | extend d => cases h; exact hw.extend d
  | tooDeep => cases h
  | _ => cases h; exact hw

/-- **Every worker keeps to the supervisor's law.** -/
theorem Watched.leads (h : w.Watched timeout poll) (hpoll : 0 < poll) (p : Worker α) :
    w.Leads o p fun _ w' => w'.Watched timeout poll :=
  leads_of_answer (fun _ _ _ _ hw h => hw.answer hpoll h) p h

theorem watched_dawn (setup : Setup) (calendar : Calendar) (stopAt : Option Duration)
    (outside : σ) : (dawn setup calendar stopAt outside).Watched setup.watchdogTimeout
      setup.watchdogPoll where
  abides := abides_cons.2 ⟨⟨Nat.le_refl _, by simp [nextLook, looks], fun _ => Nat.zero_le _⟩,
    abides_nil⟩
  coherent := coherent_dawn setup calendar stopAt outside
  poll_eq := rfl
  timeout_eq := rfl
  lastPulse_eq := rfl
  extension_eq := rfl
  tick_eq _ htick := by cases htick; simp [nextLook, looks, looksAt, dawn]
  now_le _ _ := Nat.zero_le _
  le_now := by simp [nextLook, looks, looksAt, dawn]
  lastPulse_le := Nat.le_refl _
  tripped_iff := by simp [dawn, Watchdog.create]

end World

/-- The supervisor's law holds of a run from its start to its end. -/
theorem watched_of_run {σ : Type} {o : Outside σ} {setup : Setup} {calendar : Calendar}
    {stopAt : Option Duration} {events : List Event} {outside : σ} {ended : Ended σ}
    (hpoll : 0 < setup.watchdogPoll)
    (hrun : setup.run o calendar stopAt events outside = some ended) :
    ended.world.Watched setup.watchdogTimeout setup.watchdogPoll := by
  obtain ⟨⟨outcome, w⟩, hw, rfl⟩ := Option.map_eq_some_iff.1 hrun
  have hstart := (World.elapses_start setup calendar stopAt outside).watched hpoll
    (World.watched_dawn setup calendar stopAt outside)
  have hdone := hstart.leads hpoll _ outcome w hw
  have hsettled := (World.elapses_settle w).watched hpoll hdone
  exact (World.elapses_awaitOwner _).watched hpoll hsettled

end PageScript
