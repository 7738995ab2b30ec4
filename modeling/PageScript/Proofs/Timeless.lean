import PageScript.Proofs.AllowedMoves
import PageScript.Proofs.ForsakenRuns

/-!
# What takes no time

Where the outside answers without delay and there are no plugins, an event takes no time but to sleep
or to run a program: the supervisor may get its turn in between, but finds the watchdog as fresh as
before, and the clock stands still unless the run is stopped meanwhile.

The clock moves only where the worker itself sleeps. A sleep ends when its time has come, or with the
stop of the run; the supervisor is no reason for this as long as the watchdog allows for the time.
-/

namespace PageScript

variable {σ α β : Type} {o : Outside σ} {setup : Setup} {event : Event} {kind : Kind} {s : Session}
  {w w' w'' : World σ} {t : Duration}

/-- An action is answered, and no time is taken over it. -/
structure Conduct.Undelayed (c : Conduct σ α) : Prop where
  restless : ∀ d, Beat.rest d ∉ c.beats
  answers : c.ending.isSome = true

/-- Anything but running a program. -/
def Action.Quick : Action → Prop
  | .runProcess _ => False
  | .call _ | .readFile _ | .writeFile .. | .loadScript _ => True

/-- Everything but a program that is run is answered without delay. -/
def Outside.Undelayed (o : Outside σ) : Prop :=
  ∀ a s, a.Quick → (o a s).Undelayed

namespace World

/-- The watchdog has not tripped, and unless the run has been stopped it has not expired either. -/
structure InTime (w : World σ) : Prop where
  poll_pos : 0 < w.poll
  untripped : w.watchdog.tripped = false
  fresh : w.isStopped = false → w.now ≤ w.watchdog.lastPulse + w.watchdog.allowance

/-- The watchdog is as before, and unless the run has been stopped, it is the time that is said. -/
structure Reaches (w : World σ) (t : Duration) (w' : World σ) : Prop where
  poll_eq : w'.poll = w.poll
  watchdog_eq : w'.watchdog = w.watchdog
  arrives : w'.isStopped = false → w.isStopped = false ∧ w'.now = t

namespace Reaches

theorem refl (w : World σ) : w.Reaches w.now w := ⟨rfl, rfl, fun hgoes => ⟨hgoes, rfl⟩⟩

/-- No more time passes. -/
theorem trans (h : w.Reaches t w') (h' : w'.Reaches w'.now w'') : w.Reaches t w'' where
  poll_eq := h'.poll_eq.trans h.poll_eq
  watchdog_eq := h'.watchdog_eq.trans h.watchdog_eq
  arrives hgoes := by
    obtain ⟨hgoes', hnow⟩ := h'.arrives hgoes
    exact ⟨(h.arrives hgoes').1, hnow.trans (h.arrives hgoes').2⟩

theorem tell (h : w.Reaches t w') (n : Notice) : w.Reaches t (w'.tell n) :=
  h.trans ⟨rfl, rfl, fun hgoes => ⟨hgoes, rfl⟩⟩

/-- A run that has been stopped is not the matter of the supervisor any more. -/
theorem stop (w : World σ) (who : Stopper) : w.Reaches t (w.stop who) :=
  ⟨poll_stop w who, watchdog_stop w who, fun hgoes => by
    rw [isStopped_stop] at hgoes
    cases hgoes⟩

/-- As long as the watchdog allows for the time that is reached, it has not expired. -/
theorem inTime (h : w.Reaches t w') (hw : w.InTime)
    (hdue : w.isStopped = false → t ≤ w.watchdog.lastPulse + w.watchdog.allowance) :
    w'.InTime where
  poll_pos := h.poll_eq ▸ hw.poll_pos
  untripped := h.watchdog_eq ▸ hw.untripped
  fresh hgoes := by
    rw [h.watchdog_eq, (h.arrives hgoes).2]
    exact hdue (h.arrives hgoes).1

end Reaches

/-- Where no time passes, the watchdog does not expire. -/
theorem InTime.still (hw : w.InTime) (h : w.Reaches w.now w') : w'.InTime :=
  h.inTime hw hw.fresh

/-! ## Waits -/

theorem poll_reach (w : World σ) (due : Duration) (tickFirst : Bool) :
    (w.reach due tickFirst).poll = w.poll := by
  unfold reach
  split
  · rw [poll_atTime, poll_lookUntil]
  · rfl

theorem reaches_reach (w : World σ) (due : Duration) (tickFirst : Bool) :
    w.Reaches due (w.reach due tickFirst) :=
  ⟨poll_reach w due tickFirst, watchdog_reach w due tickFirst, fun hgoes =>
    ⟨(isStopped_reach w due tickFirst).symm.trans hgoes, now_reach w due tickFirst⟩⟩

theorem reaches_ownerStops (w : World σ) : w.Reaches t w.ownerStops where
  poll_eq := by rw [ownerStops, say_eq, poll_tell, poll_withoutOwner, poll_stop]
  watchdog_eq := watchdog_ownerStops w
  arrives hgoes := by
    rw [ownerStops, say_eq, isStopped_tell, isStopped_withoutOwner, isStopped_stop] at hgoes
    cases hgoes

theorem reaches_sound_owner (w : World σ) (s : Duration) : w.Reaches t (w.sound (.owner s)) := by
  have hstopped : (w.reach (max w.now s) false).Reaches t (w.sound (.owner s)) :=
    reaches_ownerStops _
  refine ⟨hstopped.poll_eq.trans (poll_reach w _ _),
    hstopped.watchdog_eq.trans (watchdog_reach w _ _), fun hgoes => ?_⟩
  rw [isStopped_sound] at hgoes
  cases hgoes

/-- A wait that the watchdog allows for ends when its time has come, unless the run is stopped. -/
theorem InTime.await (hw : w.InTime)
    (hdue : w.isStopped = false → t ≤ w.watchdog.lastPulse + w.watchdog.allowance) :
    w.Reaches t (w.await (.untilStop none) (some t)).2 := by
  cases hstop : w.isStopped with
  | true =>
    have hleft : w.await (.untilStop none) (some t) = (some .cancelled, w) := by
      simp [World.await, Guard.limit?, Guard.heedsStop, hstop]
    rw [hleft]
    exact ⟨rfl, rfl, fun hgoes => by rw [hstop] at hgoes; cases hgoes⟩
  | false =>
    have hcases := w.alarm?_cases (some t) (w.tickFirst (.untilStop none) (some t) (some t))
    cases halarm : w.alarm? (some t) (w.tickFirst (.untilStop none) (some t) (some t)) with
    | none =>
      have harrives : (w.await (.untilStop none) (some t)).2 =
          w.reach t (w.tickFirst (.untilStop none) (some t) (some t)) := by
        simp [World.await, Guard.limit?, Guard.heedsStop, hstop, earlier, halarm, arrive]
      rw [harrives]
      exact reaches_reach w t _
    | some alarm =>
      have hsounds : (w.await (.untilStop none) (some t)).2 = w.sound alarm := by
        simp [World.await, Guard.limit?, Guard.heedsStop, hstop, earlier, halarm]
      rw [hsounds]
      cases alarm with
      | owner s => exact reaches_sound_owner w s
      | trip k =>
        -- a look that finds the watchdog expired comes after all the time it allows for
        rw [halarm] at hcases
        obtain ⟨tick, -, rfl, hbefore, -⟩ := hcases
        have hexpired := (expired_iff _ _).1 (expired_firstTrip hw.poll_pos tick)
        have hle := comesBefore_true hbefore
        have hlast := hdue hstop
        lia

theorem InTime.giveWay (hw : w.InTime) :
    w.Reaches w.now (w.await (.untilStop none) (some w.now)).2 :=
  hw.await hw.fresh

/-- What happens while an action is under way takes no time if there is no rest in it. -/
theorem InTime.live {beats : List Beat} (hw : w.InTime) (hrestless : ∀ d, Beat.rest d ∉ beats) :
    w.Reaches w.now (w.live (.untilStop none) beats).2 := by
  induction beats generalizing w with
  | nil => exact .refl w
  | cons beat beats ih =>
    have hbeats : ∀ d, Beat.rest d ∉ beats := fun d hmem =>
      hrestless d (List.mem_cons_of_mem _ hmem)
    have hafter {w₁ : World σ} (h : w.Reaches w.now w₁) :
        w.Reaches w.now (w₁.live (.untilStop none) beats).2 :=
      h.trans (ih (hw.still h) hbeats)
    cases beat with
    | rest d => exact absurd (List.mem_cons_self ..) (hrestless d)
    | giveWay =>
      have hawait := hw.giveWay
      unfold World.live
      rcases hres : w.await (.untilStop none) (some w.now) with ⟨_ | cut, w₁⟩ <;> rw [hres] at hawait
      · exact hafter hawait
      · exact hawait
    | stop => exact hafter (.stop w .outside)
    | note r => exact hafter ((Reaches.refl w).tell _)

/-- An action that is answered without delay takes no time. -/
theorem InTime.act (hw : w.InTime) {a : Action} (h : (o a w.outside).Undelayed) :
    w.Reaches w.now (w.act o (.untilStop none) a).2 := by
  have hbegun : w.Reaches w.now ((w.noteCall a).withOutside (o a w.outside).start) := by
    cases a <;> exact ⟨rfl, rfl, fun hgoes => ⟨hgoes, rfl⟩⟩
  have hlive := hbegun.trans ((hw.still hbegun).live h.restless)
  obtain ⟨⟨x, s'⟩, hending⟩ := Option.isSome_iff_exists.1 h.answers
  unfold World.act
  dsimp only
  rcases hres : ((w.noteCall a).withOutside (o a w.outside).start).live (.untilStop none)
    (o a w.outside).beats with ⟨_ | cut, w₁⟩ <;> rw [hres] at hlive
  · rw [hending]
    exact hlive.trans ⟨rfl, rfl, fun hgoes => ⟨hgoes, rfl⟩⟩
  · exact hlive

/-- A sleep that the watchdog allows for takes its time, and no more. -/
theorem InTime.sleep (hw : w.InTime) {d : Duration}
    (hdue : w.isStopped = false → w.now + d ≤ w.watchdog.lastPulse + w.watchdog.allowance) :
    ∃ t ≤ w.now + d, w.Reaches t (w.sleep (.untilStop none) d).2 := by
  unfold World.sleep
  split
  · exact ⟨w.now, Nat.le_add_right _ _, .refl w⟩
  · have hwake := wake_le w.now d
    exact ⟨Duration.wake w.now d, hwake, hw.await fun hgoes => Nat.le_trans hwake (hdue hgoes)⟩

end World

/-! ## Acts -/

namespace Stretch

/-- Takes no time where no plugins are active, and makes none active. -/
def Timeless (o : Outside σ) (p : Stretch α) : Prop :=
  ∀ s w, s.registry = [] → w.InTime →
    Leads o p s w fun _ s' w' => s'.registry = [] ∧ w.Reaches w.now w'

/-- The plugins of an occasion take no time if there are none. -/
theorem timeless_fire (setup : Setup) (occasion : Occasion) : Timeless o (Stretch.fire setup occasion) := by
  intro s w hregistry _
  rw [leads_fire, Session.leads_fire]
  split
  · exact ⟨hregistry, .refl w⟩
  · have hnone : s.registry.isEmpty = true := by rw [hregistry]; rfl
    rw [Session.dispatch, if_pos hnone]
    exact World.leads_pure _ |>.2 ⟨hregistry, (World.Reaches.refl w).tell _⟩

theorem timeless_play_pure (a : α) : Timeless o (Act.play setup (pure a)) := fun _ w hregistry _ =>
  leads_play_pure a |>.2 ⟨hregistry, .refl w⟩

theorem timeless_fail (m : Mishap) : Timeless o (Act.play setup (Act.fail m : Act α)) :=
  fun _ w hregistry _ => leads_play_fail m |>.2 ⟨hregistry, .refl w⟩

theorem Timeless.act_bind {a : Act β} {f : β → Act α} (ha : Timeless o (a.play setup))
    (hf : ∀ b, Timeless o ((f b).play setup)) : Timeless o (Act.play setup (a >>= f)) := by
  intro s w hregistry hw
  rw [leads_play_bind]
  refine (ha s w hregistry hw).mono fun r s' w' h => ?_
  cases r with
  | error m => exact h
  | ok b => exact (hf b s' w' h.1 (hw.still h.2)).mono fun _ _ _ h' => ⟨h'.1, h.2.trans h'.2⟩

/-- Whatever is asked of the outside but a program takes no time. -/
theorem timeless_guarded (hundelayed : o.Undelayed) {a : Action} (ha : a.Quick) :
    Timeless o (Stretch.ofWorker (Worker.guarded (.untilStop none) (.act a))) := by
  intro s w hregistry hw
  rw [leads_ofWorker, World.leads_guarded]
  split
  · exact ⟨hregistry, .refl w⟩
  · exact ⟨hregistry, hw.act (hundelayed a w.outside ha)⟩

theorem timeless_move (hundelayed : o.Undelayed) (hplugins : setup.plugins = [])
    (hrests : ¬ kind.Rests) (hkind : kind ≠ .command .execute) {m : Move}
    (hallowed : m.Allowed setup kind) : Timeless o (Act.play setup (Act.move m)) := by
  have hcatalog {r : Registration} (hmem : r ∈ Configured.catalog setup.plugins) : False := by
    rw [hplugins] at hmem
    cases hmem
  intro s w hregistry hw
  rw [leads_play_move]
  cases m with
  | say r =>
    exact leads_ofWorker _ |>.2 (World.leads_say r |>.2 ⟨hregistry, (World.Reaches.refl w).tell _⟩)
  | step st =>
    cases st with
    | act a =>
      refine timeless_guarded hundelayed ?_ s w hregistry hw
      cases a with
      | runProcess p => exact absurd hallowed hkind
      | _ => trivial
    | sleep d => exact absurd hallowed hrests
    | forever => cases hallowed
  | now => exact leads_ofWorker _ |>.2 (World.leads_now.2 ⟨hregistry, .refl w⟩)
  | calendar => exact leads_ofWorker _ |>.2 (World.leads_calendar.2 ⟨hregistry, .refl w⟩)
  | session => exact leads_get.2 ⟨hregistry, .refl w⟩
  | edit e =>
    refine leads_modify _ |>.2 ⟨?_, .refl w⟩
    cases e with
    | activate r => exact (hcatalog hallowed.2).elim
    | _ => exact hregistry
  | aroundClick side event element => exact timeless_fire setup _ s w hregistry hw
  | plugin p element args =>
    obtain ⟨-, r, hmem, -⟩ := hallowed
    exact (hcatalog hmem).elim

/-- **What is done by events that neither sleep nor run a program takes no time.** -/
theorem timeless_act (hundelayed : o.Undelayed) (hplugins : setup.plugins = [])
    (hrests : ¬ kind.Rests) (hkind : kind ≠ .command .execute) {a : Act α}
    (ha : a.Composed setup event kind) : Timeless o (a.play setup) := by
  have hspreads : Act.Spreads setup event kind fun a => Timeless o (a.play setup) :=
    .of_moves timeless_play_pure timeless_fail Timeless.act_bind
      (timeless_move hundelayed hplugins hrests hkind)
  exact hspreads.composed ha

theorem timeless_passage (hundelayed : o.Undelayed) (hplugins : setup.plugins = [])
    (hrests : ¬ kind.Rests) (hkind : kind ≠ .command .execute) {p : Passage α}
    (hp : p.Composed setup event kind) : Timeless o p.run := by
  induction hp with
  | pure a => exact fun s w hregistry _ => leads_run_pure a |>.2 ⟨hregistry, .refl w⟩
  | act ha => exact timeless_act hundelayed hplugins hrests hkind ha
  | extend d hrests' => exact absurd hrests' hrests
  | bind _ _ ihp ihf =>
    intro s w hregistry hw
    rw [leads_run_bind]
    refine (ihp s w hregistry hw).mono fun r s' w' h => ?_
    cases r with
    | error m => exact h
    | ok b => exact (ihf b s' w' h.1 (hw.still h.2)).mono fun _ _ _ h' => ⟨h'.1, h.2.trans h'.2⟩

end Stretch
end PageScript
