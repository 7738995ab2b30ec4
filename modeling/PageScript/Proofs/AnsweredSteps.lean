import PageScript.Proofs.GivenUpSteps

/-!
# Steps that are answered

What an event asks for is under a guard that heeds the stop and has no limit. A step under it is
answered, and then the outside is in the state that goes with the answer; or it is given up, and then
the run has been stopped, for as long as it has not the supervisor looks on and its alarm is bound to
sound. Nothing but an action reaches the outside.
-/

namespace PageScript

namespace World

variable {σ : Type} {o : Outside σ} {g : Guard} {w w' : World σ}

section Waits

variable (w)

@[simp] theorem outside_stop (who : Stopper) : (w.stop who).outside = w.outside := by
  unfold stop; split <;> rfl

@[simp] theorem outside_lookUntil (next : Duration) :
    (w.lookUntil next).outside = w.outside := by
  unfold lookUntil; split <;> (try split) <;> rfl

@[simp] theorem outside_reach (due : Duration) (first : Bool) :
    (w.reach due first).outside = w.outside := by
  unfold reach
  split
  · exact outside_lookUntil w _
  · rfl

theorem outside_sound (alarm : Alarm) : (w.sound alarm).outside = w.outside := by
  cases alarm with
  | owner t => exact (outside_stop _ _).trans (outside_reach w _ _)
  | trip t => exact (outside_stop _ _).trans (outside_lookUntil w t)

/-- While the worker waits nothing reaches the outside. -/
theorem outside_await (g : Guard) (own : Option Duration) :
    (w.await g own).2.outside = w.outside := by
  have harrive (w : World σ) (due : Option Duration) :
      (w.arrive g own due).2.outside = w.outside := by
    cases due with
    | none => rfl
    | some t => exact outside_reach w _ _
  unfold await
  split
  · rfl
  split
  · rfl
  dsimp only
  split
  · exact harrive w _
  · split
    · exact outside_sound w _
    · exact (harrive _ _).trans (outside_sound w _)

theorem outside_sleep (g : Guard) (d : Duration) : (w.sleep g d).2.outside = w.outside := by
  unfold sleep
  split
  · rfl
  · exact outside_await w g _

/-! ## Waits that are given up -/

/-- While the supervisor looks on, an alarm is bound to sound before a wait that has no end. -/
theorem isSome_alarm? (hstop : w.isStopped = false) (first : Bool) :
    (w.alarm? none first).isSome = true := by
  obtain ⟨tick, htick⟩ := exists_nextTick hstop
  have hcases := w.alarm?_cases none first
  cases halarm : w.alarm? none first with
  | some alarm => rfl
  | none =>
    rw [halarm] at hcases
    cases hcases tick htick

theorem isStopped_await {own : Option Duration}
    (h : (w.await (.untilStop none) own).1.isSome = true) :
    (w.await (.untilStop none) own).2.isStopped = true := by
  cases hstop : w.isStopped with
  | true => simp [await, Guard.limit?, Guard.heedsStop, hstop]
  | false =>
    cases own with
    | none =>
      obtain ⟨alarm, halarm⟩ := Option.isSome_iff_exists.1
        (isSome_alarm? w hstop (w.tickFirst (.untilStop none) none none))
      simp [await, Guard.limit?, Guard.heedsStop, hstop, earlier, halarm]
    | some t =>
      cases halarm : w.alarm? (some t) (w.tickFirst (.untilStop none) (some t) (some t)) with
      | some alarm => simp [await, Guard.limit?, Guard.heedsStop, hstop, earlier, halarm]
      | none => simp [await, Guard.limit?, Guard.heedsStop, hstop, earlier, halarm, arrive] at h

theorem isStopped_sleep {d : Duration} (h : (w.sleep (.untilStop none) d).1.isSome = true) :
    (w.sleep (.untilStop none) d).2.isStopped = true := by
  unfold sleep at h ⊢
  split
  · rename_i hzero
    rw [if_pos hzero] at h
    cases h
  · rename_i hzero
    rw [if_neg hzero] at h
    exact isStopped_await w h

theorem isStopped_hang : (w.hang (.untilStop none)).2.isStopped = true :=
  isStopped_await w (isSome_await_none _ w)

theorem isStopped_live {beats : List Beat} (h : (w.live (.untilStop none) beats).1.isSome = true) :
    (w.live (.untilStop none) beats).2.isStopped = true := by
  induction beats generalizing w with
  | nil => cases h
  | cons beat beats ih =>
    unfold live at h ⊢
    cases beat with
    | rest d =>
      have hsleep := @isStopped_sleep σ w d
      dsimp only at h ⊢
      rcases hres : w.sleep (.untilStop none) d with ⟨_ | cut, w'⟩ <;> rw [hres] at h hsleep
      · exact ih w' h
      · exact hsleep h
    | giveWay =>
      have hawait := @isStopped_await σ w (some w.now)
      dsimp only at h ⊢
      rcases hres : w.await (.untilStop none) (some w.now) with ⟨_ | cut, w'⟩ <;>
        rw [hres] at h hawait
      · exact ih w' h
      · exact hawait h
    | stop => exact ih _ h
    | note r => exact ih _ h

end Waits

/-- A step of an event that is given up leaves the run stopped. -/
theorem isStopped_of_cut {s : Step} {cut : Cut}
    (h : w.step o (.untilStop none) s = (.error cut, w')) : w'.isStopped = true := by
  cases s with
  | sleep d =>
    have hsleep := @isStopped_sleep σ w d
    simp only [step] at h
    rcases hres : w.sleep (.untilStop none) d with ⟨_ | c, w''⟩ <;> rw [hres] at h hsleep
    · cases h
    · cases h
      exact hsleep rfl
  | forever =>
    cases h
    exact isStopped_hang w
  | act a =>
    simp only [step, act] at h
    have hlive := @isStopped_live σ ((w.noteCall a).withOutside (o a w.outside).start)
      (o a w.outside).beats
    rcases hres : ((w.noteCall a).withOutside (o a w.outside).start).live (.untilStop none)
      (o a w.outside).beats with ⟨_ | c, w''⟩ <;> rw [hres] at h hlive <;> dsimp only at h
    · cases hending : (o a w.outside).ending with
      | some p =>
        rw [hending] at h
        cases h
      | none =>
        rw [hending] at h
        cases h
        exact isStopped_hang w''
    · cases h
      exact hlive rfl

/-- An action that is answered leaves the outside in the state that goes with the answer. -/
theorem ending_of_act {a : Action} {x : a.Answer} (h : w.step o g (.act a) = (.ok x, w')) :
    (o a w.outside).ending = some (x, w'.outside) := by
  simp only [step, act] at h
  rcases hres : ((w.noteCall a).withOutside (o a w.outside).start).live g (o a w.outside).beats
    with ⟨_ | c, w''⟩ <;> rw [hres] at h <;> dsimp only at h
  · cases hending : (o a w.outside).ending with
    | some p =>
      rw [hending] at h
      cases h
      rfl
    | none =>
      rw [hending] at h
      cases h
  · cases h

/-- What is no action does not reach the outside. -/
theorem outside_of_sleep {d : Duration} {x : Unit} (h : w.step o g (.sleep d) = (.ok x, w')) :
    w'.outside = w.outside := by
  have hsleep := outside_sleep w g d
  simp only [step] at h
  rcases hres : w.sleep g d with ⟨_ | c, w''⟩ <;> rw [hres] at h hsleep
  · cases h
    exact hsleep
  · cases h

end World
end PageScript
