import PageScript.Proofs.Histories

/-!
# Why steps are given up

A step is given up for one of two reasons only: the limit of its guard has come, or the run has been
stopped and the guard heeds the stop. Neither reason goes away: time does not go back, and a stop is
not undone. So where neither holds at the end of some work, none of its steps has been given up.
-/

namespace PageScript

namespace World

variable {σ : Type} {o : Outside σ} {g : Guard} {w w' : World σ}

/-- There is a reason to give up a step under a guard. -/
def Cuts (g : Guard) (w : World σ) : Cut → Prop
  | .timeUp => ∃ l, g.limit? = some l ∧ l.due ≤ w.now
  | .cancelled => g.limit? = none ∨ g.heedsStop = true ∧ w.isStopped = true

/-- Under a guard with a limit there is no reason to give up a step. -/
structure Spares (g : Guard) (w : World σ) : Prop where
  limit : ∃ l, g.limit? = some l ∧ w.now < l.due
  stopped : g.heedsStop = true → w.isStopped = false

theorem Spares.not_cuts (h : w.Spares g) (cut : Cut) : ¬ w.Cuts g cut := by
  obtain ⟨l, hl, hdue⟩ := h.limit
  cases cut with
  | timeUp =>
    rintro ⟨l', hl', hdue'⟩
    rw [hl] at hl'
    cases hl'
    exact absurd hdue (Nat.not_lt.2 hdue')
  | cancelled =>
    rintro (hnone | ⟨hheeds, hstop⟩)
    · rw [hl] at hnone
      cases hnone
    · rw [h.stopped hheeds] at hstop
      cases hstop

/-- A reason to give up a step does not go away. -/
theorem Spares.of_later (h : w'.Spares g) (hlater : w.Later w') : w.Spares g := by
  obtain ⟨l, hl, hdue⟩ := h.limit
  refine ⟨⟨l, hl, Nat.lt_of_le_of_lt hlater.now_le hdue⟩, fun hheeds => ?_⟩
  cases hstop : w.isStopped with
  | false => rfl
  | true =>
    have hfalse := h.stopped hheeds
    rw [hlater.stopped hstop] at hfalse
    cases hfalse

theorem cuts_arrive (w : World σ) {own due : Option Duration}
    (hdue : due = earlier own (g.limit?.map (·.due))) {cut : Cut}
    (h : (w.arrive g own due).1 = some cut) : (w.arrive g own due).2.Cuts g cut := by
  unfold arrive at h ⊢
  cases due with
  | none =>
    cases h
    left
    cases hl : g.limit? with
    | none => rfl
    | some l =>
      rw [hl] at hdue
      cases own <;> cases hdue
  | some t =>
    dsimp only at h ⊢
    split at h
    · cases h
    rename_i hown
    cases h
    cases hl : g.limit? with
    | none =>
      rw [hl] at hdue
      cases own with
      | none => cases hdue
      | some a =>
        cases hdue
        exact absurd (beq_self_eq_true _) hown
    | some l =>
      refine ⟨l, hl, ?_⟩
      rw [hl] at hdue
      rw [now_reach]
      cases own with
      | none =>
        cases hdue
        exact Nat.le_refl _
      | some a =>
        -- the wait does not end at its own time, so it ends at the limit
        cases hdue
        rw [beq_iff_eq, Option.some.injEq] at hown
        lia

theorem cuts_await (g : Guard) (own : Option Duration) (w : World σ) {cut : Cut}
    (h : (w.await g own).1 = some cut) : (w.await g own).2.Cuts g cut := by
  unfold await at h ⊢
  split
  · rename_i hlimit
    rw [if_pos hlimit] at h
    cases h
    cases hl : g.limit? with
    | none =>
      rw [hl] at hlimit
      cases hlimit
    | some l =>
      rw [hl, Option.any_some, decide_eq_true_eq] at hlimit
      exact ⟨l, hl, hlimit⟩
  -- the limit is still to come, and the stop may have come already
  rename_i hlimit
  rw [if_neg hlimit] at h
  split
  · rename_i hstop
    rw [if_pos hstop] at h
    cases h
    rw [Bool.and_eq_true] at hstop
    exact .inr ⟨hstop.2, hstop.1⟩
  rename_i hstop
  rw [if_neg hstop] at h
  dsimp only at h ⊢
  -- from here time goes on: to the alarm that stops the run, or to the end of the wait
  cases halarm : w.alarm? (earlier own (g.limit?.map (·.due)))
      (w.tickFirst g own (earlier own (g.limit?.map (·.due)))) with
  | none =>
    rw [halarm] at h
    exact cuts_arrive w rfl h
  | some alarm =>
    rw [halarm] at h
    dsimp only at h ⊢
    split
    · rename_i hheeds
      rw [if_pos hheeds] at h
      cases h
      exact .inr ⟨hheeds, isStopped_sound w alarm⟩
    · rename_i hheeds
      rw [if_neg hheeds] at h
      exact cuts_arrive _ rfl h

theorem cuts_sleep (g : Guard) (d : Duration) (w : World σ) {cut : Cut}
    (h : (w.sleep g d).1 = some cut) : (w.sleep g d).2.Cuts g cut := by
  unfold sleep at h ⊢
  split
  · rename_i hzero
    rw [if_pos hzero] at h
    cases h
  · rename_i hzero
    rw [if_neg hzero] at h
    exact cuts_await g _ w h

/-- A wait without a time of its own ends only where it is given up. -/
theorem isSome_await_none (g : Guard) (w : World σ) : (w.await g none).1.isSome = true := by
  have harrive (w : World σ) (due : Option Duration) : (w.arrive g none due).1.isSome = true := by
    cases due <;> rfl
  unfold await
  split
  · rfl
  split
  · rfl
  dsimp only
  split
  · exact harrive w _
  · split
    · rfl
    · exact harrive _ _

theorem cuts_hang (g : Guard) (w : World σ) : (w.hang g).2.Cuts g (w.hang g).1 := by
  obtain ⟨cut, hcut⟩ := Option.isSome_iff_exists.1 (isSome_await_none g w)
  have hcuts := cuts_await g none w hcut
  unfold hang
  dsimp only
  rwa [hcut, Option.getD_some]

theorem cuts_live (g : Guard) (beats : List Beat) (w : World σ) {cut : Cut}
    (h : (w.live g beats).1 = some cut) : (w.live g beats).2.Cuts g cut := by
  induction beats generalizing w with
  | nil => cases h
  | cons beat beats ih =>
    unfold live at h ⊢
    cases beat with
    | rest d =>
      have hsleep := @cuts_sleep σ g d w
      dsimp only at h ⊢
      rcases hres : w.sleep g d with ⟨_ | c, w'⟩ <;> rw [hres] at h hsleep
      · exact ih w' h
      · exact hsleep h
    | giveWay =>
      have hawait := @cuts_await σ g (some w.now) w
      dsimp only at h ⊢
      rcases hres : w.await g (some w.now) with ⟨_ | c, w'⟩ <;> rw [hres] at h hawait
      · exact ih w' h
      · exact hawait h
    | stop => exact ih _ h
    | note r => exact ih _ h

/-- **A step is given up only for a reason.** -/
theorem cuts_step {s : Step} {cut : Cut} (h : w.step o g s = (.error cut, w')) :
    w'.Cuts g cut := by
  cases s with
  | sleep d =>
    have hsleep := @cuts_sleep σ g d w
    simp only [step] at h
    rcases hres : w.sleep g d with ⟨_ | c, w''⟩ <;> rw [hres] at h hsleep
    · cases h
    · cases h
      exact hsleep rfl
  | forever =>
    cases h
    exact cuts_hang g w
  | act a =>
    simp only [step, act] at h
    have hlive := @cuts_live σ g (o a w.outside).beats
      ((w.noteCall a).withOutside (o a w.outside).start)
    rcases hres : ((w.noteCall a).withOutside (o a w.outside).start).live g (o a w.outside).beats
      with ⟨_ | c, w''⟩ <;> rw [hres] at h hlive <;> dsimp only at h
    · cases hending : (o a w.outside).ending with
      | some p =>
        rw [hending] at h
        cases h
      | none =>
        rw [hending] at h
        cases h
        exact cuts_hang g w''
    · cases h
      exact hlive rfl

end World
end PageScript
