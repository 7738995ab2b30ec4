import PageScript.Proofs.Timeless
import PageScript.Proofs.NoPlugins
import PageScript.Proofs.RunTours

/-!
# Waiting is not hanging

Where only waits and searches for a window take time, the watchdog never trips. Each event begins with
a sign of progress, and up to its sleeps no time has passed since; it has the watchdog allow for as
long as it is going to sleep, in the place of what was allowed before. So when its time has come, the
watchdog has just not expired, wherever the looks of the supervisor fall; and from there no time
passes up to the next sign of progress. A search sleeps no more often than its patience has seconds.

Once the worker is done there are no more signs of progress. Then all depends on the owner.
-/

namespace PageScript

open Stretch

variable {σ α : Type} {o : Outside σ} {setup : Setup} {event : Event} {s : Session}
  {w w' : World σ} {t : Duration}

/-! ## Runs in which nothing else takes time -/

/-- Neither an event nor any one below it is of a kind. -/
inductive Event.Without (k : Kind) : Event → Prop where
  | intro {event : Event} : event.kind ≠ k → (∀ child ∈ event.children, Event.Without k child) →
      Without k event

theorem Event.Without.kind_ne {k : Kind} (h : event.Without k) : event.kind ≠ k := by
  cases h
  assumption

theorem Event.Without.children {k : Kind} (h : event.Without k) :
    ∀ child ∈ event.children, child.Without k := by
  cases h
  assumption

/-- No plugins are there, what is asked for is answered without delay, and scripts that are included
run no programs. The patience of a search for a window is a number of seconds. -/
structure Setup.Calm (setup : Setup) (o : Outside σ) : Prop where
  poll : 0 < setup.watchdogPoll
  plugins : setup.plugins = []
  patience : ∃ secs, secs < Nat.pow 2 64 ∧ setup.attachPatience = .ofSecs secs
  undelayed : o.Undelayed
  loads : ∀ path included, o.Answers (.loadScript path) (.ok included) →
    ∀ event ∈ included, event.Without (.command .execute)

/-! ## Sleeps -/

namespace World

/-- The watchdog has seen progress, and no time has passed since. -/
structure Begun (w : World σ) : Prop where
  inTime : w.InTime
  pulsed : w.isStopped = false → w.now = w.watchdog.lastPulse

theorem InTime.pulse (hw : w.InTime) : w.pulse.Begun where
  inTime := ⟨hw.poll_pos, hw.untripped, fun _ => Nat.le_add_right _ _⟩
  pulsed _ := rfl

theorem InTime.tell (hw : w.InTime) (n : Notice) : (w.tell n).InTime :=
  hw.still ((Reaches.refl w).tell n)

theorem Begun.still (hw : w.Begun) (h : w.Reaches w.now w') : w'.Begun where
  inTime := hw.inTime.still h
  pulsed hgoes := by
    rw [h.watchdog_eq, (h.arrives hgoes).2]
    exact hw.pulsed (h.arrives hgoes).1

/-- What is allowed for takes the place of what was allowed before. -/
theorem Begun.extend (hw : w.Begun) (d : Duration) : (w.extend d).InTime where
  poll_pos := hw.inTime.poll_pos
  untripped := hw.inTime.untripped
  fresh hgoes := Nat.le_trans (Nat.le_of_eq (hw.pulsed hgoes)) (Nat.le_add_right _ _)

theorem longest_ge {secs : Nat} (h : secs < Nat.pow 2 64) :
    Duration.ofSecs secs ≤ Duration.longest := by
  have hlast : Duration.longest = Nat.pow 2 64 * 1000000000 - 1 := rfl
  rw [hlast, Duration.ofSecs]
  generalize Nat.pow 2 64 = n at h
  lia

/-- What is allowed for is at least what is asked for. -/
theorem Begun.allows (hw : w.Begun) {d : Duration} (hd : d ≤ Duration.longest)
    (hgoes : w.isStopped = false) :
    (w.extend d).now + d ≤ (w.extend d).watchdog.lastPulse + (w.extend d).watchdog.allowance := by
  have hallowance : d ≤ (w.extend d).watchdog.allowance :=
    Nat.le_min.2 ⟨Nat.le_add_left _ _, hd⟩
  have hnow : (w.extend d).now = (w.extend d).watchdog.lastPulse := hw.pulsed hgoes
  rw [hnow]
  exact Nat.add_le_add_left hallowance _

end World

namespace Stretch

/-- No plugins are active, and the watchdog is in time. -/
def InTime (s : Session) (w : World σ) : Prop := s.registry = [] ∧ w.InTime

/-- Time passes only as far as the watchdog allows for it. -/
def Patient (o : Outside σ) (p : Stretch α) (s : Session) (w : World σ) : Prop :=
  Leads o p s w fun _ s' w' => InTime s' w'

theorem Timeless.patient {p : Stretch α} (hp : Timeless o p) (h : InTime s w) : Patient o p s w :=
  (hp s w h.1 h.2).mono fun _ _ _ h' => ⟨h'.1, h.2.still h'.2⟩

/-- A sleep that the watchdog allows for. -/
theorem leads_sleep {d : Duration} (h : InTime s w)
    (hdue : w.isStopped = false → w.now + d ≤ w.watchdog.lastPulse + w.watchdog.allowance) :
    Leads o (Act.play setup (Act.step (.sleep d))) s w fun _ s' w' =>
      InTime s' w' ∧ ∃ t ≤ w.now + d, w.Reaches t w' := by
  obtain ⟨t, ht, hsleep⟩ := h.2.sleep hdue
  have hslept := hsleep.inTime h.2 fun hgoes => Nat.le_trans ht (hdue hgoes)
  rw [Act.step, leads_play_bind, leads_play_move, Move.play, leads_ofWorker, World.leads_guarded]
  split
  · exact leads_play_fail _ |>.2 ⟨h, w.now, Nat.le_add_right _ _, .refl w⟩
  · unfold World.step
    rcases hres : w.sleep (.untilStop none) d with ⟨_ | cut, w'⟩ <;> rw [hres] at hsleep hslept
    · have hslept : InTime s w' ∧ ∃ t ≤ w.now + d, w.Reaches t w' := ⟨⟨h.1, hslept⟩, t, ht, hsleep⟩
      simpa only [hres, Act.orAbort, leads_play_pure] using hslept
    · have hslept : InTime s w' ∧ ∃ t ≤ w.now + d, w.Reaches t w' := ⟨⟨h.1, hslept⟩, t, ht, hsleep⟩
      simpa only [hres, Act.orAbort, leads_play_fail] using hslept

/-- The number of seconds that an event waits fits 64 bits. -/
theorem leads_announceWait : Leads o (Act.play setup (Act.announceWait setup event)) s w
    fun r _ _ => ∀ secs, r = .ok secs → secs < Nat.pow 2 64 := by
  have hsecs (s : Session) (w : World σ) : Leads o (Act.play setup (Act.waitSecs setup event)) s w
      fun r _ _ => ∀ secs, r = .ok secs → secs < Nat.pow 2 64 := by
    refine leads_play_last fun raw s w => ?_
    cases raw with
    | none =>
      refine leads_play_pure _ |>.2 fun secs heq => ?_
      cases heq
      decide
    | some raw =>
      dsimp only
      split
      · rename_i secs hread
        refine leads_play_pure _ |>.2 fun _ heq => ?_
        cases heq
        exact of_decide_eq_true (Option.filter_eq_some_iff.1 hread).2
      · exact leads_play_fail _ |>.2 fun _ heq => by cases heq
  rw [Act.announceWait, leads_play_bind]
  refine (hsecs s w).mono fun r s' w' h => ?_
  cases r with
  | error m => exact fun _ heq => by cases heq
  | ok secs =>
    refine leads_play_last fun _ s w => leads_play_pure _ |>.2 fun _ heq => ?_
    cases heq
    exact h secs rfl

/-- Where it does not sleep, an event that waits or looks for a window does nothing that an event on the
browser might not do; and this takes no time. -/
theorem timeless_awake (hcalm : setup.Calm o) (event : Event) {a : Act α}
    (ha : a.Composed setup event (.command .browser)) : Timeless o (a.play setup) := by
  refine timeless_act hcalm.undelayed hcalm.plugins (fun hrests => ?_) (fun heq => by cases heq) ha
  rcases hrests with h | h <;> cases h

/-- An event that waits has the watchdog allow for the wait. -/
theorem patient_wait (hcalm : setup.Calm o) (hregistry : s.registry = []) (hw : w.Begun) :
    Patient o (Passage.wait setup event).run s w := by
  unfold Patient
  rw [Passage.wait, leads_run_bind]
  refine ((timeless_awake hcalm event (Act.composed_announceWait rfl) s w hregistry hw.inTime).and
    leads_announceWait).mono ?_
  rintro r s₁ w₁ ⟨⟨hregistry₁, hreaches⟩, hsecs⟩
  have hbegun := hw.still hreaches
  cases r with
  | error mishap => exact ⟨hregistry₁, hbegun.inTime⟩
  | ok secs =>
    dsimp only
    rw [leads_run_bind, leads_passage_extend]
    dsimp only
    have hextended : InTime s₁ (w₁.extend (.ofSecs secs)) := ⟨hregistry₁, hbegun.extend _⟩
    have hallowed := hbegun.allows (World.longest_ge (hsecs secs rfl))
    rw [Passage.plainly, leads_run_bind]
    refine (leads_sleep hextended hallowed).mono fun r s₂ w₂ h => ?_
    cases r with
    | error mishap => exact h.1
    | ok _ => exact leads_run_pure _ |>.2 h.1

theorem pauses_ofSecs (secs : Nat) :
    (Duration.ofSecs secs + WindowQuery.pause - 1) / WindowQuery.pause = secs := by
  unfold Duration.ofSecs WindowQuery.pause Duration.ofSecs
  lia

theorem pause_mul (secs : Nat) : secs * WindowQuery.pause = Duration.ofSecs secs := by
  unfold WindowQuery.pause Duration.ofSecs
  lia

/-- A search sleeps no more often than it may. -/
theorem patient_search (hcalm : setup.Calm o) (q : WindowQuery) (deadline : Duration)
    (pauses : Nat) (h : InTime s w) (hdue : w.isStopped = false →
      w.now + pauses * WindowQuery.pause ≤ w.watchdog.lastPulse + w.watchdog.allowance) :
    Patient o (Act.play setup (q.search deadline pauses)) s w := by
  have hfind : Timeless o (Act.play setup q.find) :=
    timeless_awake hcalm { kind := .command .browser, name := "" } (Act.composed_find q rfl)
  induction pauses generalizing s w with
  | zero => exact hfind.patient h
  | succ pauses ih =>
    unfold Patient WindowQuery.search
    rw [leads_play_bind]
    refine (hfind s w h.1 h.2).mono ?_
    rintro r s₁ w₁ ⟨hregistry, hfound⟩
    have h₁ : InTime s₁ w₁ := ⟨hregistry, h.2.still hfound⟩
    rcases r with m | _ | handle
    · exact h₁
    · dsimp only
      rw [leads_play_bind, leads_play_move, Move.play, leads_ofWorker, World.leads_now]
      dsimp only
      split
      · exact leads_play_pure _ |>.2 h₁
      rw [leads_play_bind]
      -- the look has taken no time, so all the pauses that were allowed for still are
      have hdue₁ (hgoes : w₁.isStopped = false) : w₁.now + (pauses + 1) * WindowQuery.pause ≤
          w₁.watchdog.lastPulse + w₁.watchdog.allowance := by
        rw [hfound.watchdog_eq, (hfound.arrives hgoes).2]
        exact hdue (hfound.arrives hgoes).1
      have hallowed (hgoes : w₁.isStopped = false) : w₁.now + WindowQuery.pause ≤
          w₁.watchdog.lastPulse + w₁.watchdog.allowance := by
        have := hdue₁ hgoes
        lia
      refine (leads_sleep h₁ hallowed).mono ?_
      rintro r s₂ w₂ ⟨h₂, t, ht, hslept⟩
      cases r with
      | error m => exact h₂
      | ok _ =>
        -- one pause is over, and one pause less is left
        refine ih h₂ fun hgoes => ?_
        have := hdue₁ (hslept.arrives hgoes).1
        rw [hslept.watchdog_eq, (hslept.arrives hgoes).2]
        lia
    · exact leads_play_pure _ |>.2 h₁

/-- An event that looks for a window has the watchdog allow for the search. -/
theorem patient_attach (hcalm : setup.Calm o) (hregistry : s.registry = []) (hw : w.Begun) :
    Patient o (Passage.attach setup event).run s w := by
  obtain ⟨secs, hsecs, hpatience⟩ := hcalm.patience
  unfold Patient
  rw [Passage.attach, leads_run_bind]
  refine (timeless_awake hcalm event (.bind (Act.composed_ofEvent rfl) fun _ =>
    .bind (Act.composed_call (c := .currentWindow) trivial) fun _ => .pure _) s w hregistry
      hw.inTime).mono ?_
  rintro r s₁ w₁ ⟨hregistry₁, hreaches⟩
  have hbegun := hw.still hreaches
  rcases r with mishap | ⟨q, previous⟩
  · exact ⟨hregistry₁, hbegun.inTime⟩
  · dsimp only
    rw [leads_run_bind, leads_passage_extend]
    dsimp only
    -- what is allowed for is the whole search, before its first look
    have hextended : InTime s₁ (w₁.extend setup.attachPatience) := ⟨hregistry₁, hbegun.extend _⟩
    have hallowed := hbegun.allows (World.longest_ge hsecs)
    have hattach : Patient o (Act.play setup (Act.attach setup q previous)) s₁
        (w₁.extend setup.attachPatience) := by
      unfold Patient Act.attach
      rw [leads_play_bind, leads_play_move, Move.play, leads_ofWorker, World.leads_now]
      dsimp only
      rw [leads_play_bind, hpatience, pauses_ofSecs]
      rw [hpatience] at hextended
      refine (patient_search hcalm q _ secs hextended fun hgoes => ?_).mono
        fun r s₂ w₂ h₂ => ?_
      · have := hallowed hgoes
        rwa [pause_mul]
      · cases r with
        | error mishap => exact h₂
        | ok found =>
          have htimeless : Timeless o (Act.play setup _) :=
            timeless_awake hcalm event (Act.composed_attached q rfl rfl previous found)
          exact htimeless.patient h₂
    rw [leads_run_bind]
    refine hattach.mono fun r s₂ w₂ h₂ => ?_
    cases r with
    | error mishap => exact h₂
    | ok _ => exact leads_run_pure _ |>.2 h₂

/-- **While an event is carried out time passes only as far as the watchdog allows for it.** -/
theorem patient_carryOut (hcalm : setup.Calm o) (hprograms : event.kind ≠ .command .execute)
    (parent : Option Element) (hregistry : s.registry = []) (hw : w.Begun) :
    Patient o (Passage.carryOut setup event parent).run s w := by
  by_cases hwait : event.kind = .command .wait
  · rw [Passage.carryOut, hwait]
    exact patient_wait hcalm hregistry hw
  by_cases hattach : event.kind = .command .attach
  · rw [Passage.carryOut, hattach]
    exact patient_attach hcalm hregistry hw
  · have hrests : ¬ event.kind.Rests := fun h => h.elim hwait hattach
    exact (timeless_passage hcalm.undelayed hcalm.plugins hrests hprograms
      (Passage.composed_carryOut event parent)).patient ⟨hregistry, hw.inTime⟩

theorem patient_openEvent (hcalm : setup.Calm o) (hprograms : event.kind ≠ .command .execute)
    (parent : Option Element) (hregistry : s.registry = []) (hw : w.Begun) :
    Patient o (Passage.openEvent setup event parent).run s w := by
  unfold Patient
  rw [Passage.openEvent, leads_run_bind, leads_run_lift]
  refine (patient_carryOut hcalm hprograms parent hregistry hw).mono fun r s' w' h => ?_
  dsimp only
  rw [leads_run_bind, leads_passage_tell]
  exact leads_pure r |>.2 ⟨h.1, h.2.tell _⟩

end Stretch

/-! ## Tours -/

namespace Journey

theorem patient_report (event : Event) (failure : Failure) (h : InTime s w) :
    Patient o (report event failure).run s w := by
  refine (leads_report event failure).mono fun r s' w' hreports => ?_
  cases hreports with
  | own mishap r => exact ⟨h.1, (h.2.tell _).tell _⟩
  | lost e r => exact ⟨h.1, (h.2.tell _).tell _⟩
  | halted e => exact ⟨h.1, h.2.tell _⟩

theorem patient_restore (hcalm : setup.Calm o) (event : Event) (r : Restore) (h : InTime s w) :
    Patient o (Passage.restore setup r).run s w := by
  have hrests : ¬ r.kind.Rests := by
    rintro (h | h) <;> cases r <;> cases h
  have hprograms : r.kind ≠ .command .execute := by
    intro h
    cases r <;> cases h
  exact (timeless_passage hcalm.undelayed hcalm.plugins hrests hprograms
    (Passage.composed_restore event r)).patient h

theorem patient_settle (hcalm : setup.Calm o) (event : Event) (result : Except Mishap Opened)
    (h : InTime s w) : Patient o (settle setup event result).run s w := by
  cases result with
  | error mishap => exact patient_report event _ h
  | ok opened =>
    refine leads_settle ((patient_restore hcalm event opened.restore h).mono fun r s₁ w₁ h₁ => ?_)
    cases r with
    | ok _ => exact h₁
    | error mishap => exact patient_report event _ h₁

/-- An event finishes with a sign of progress. -/
theorem patient_finish (event : Event) (element : Option Element) (h : InTime s w) :
    Patient o (finish setup event element).run s w := by
  unfold Patient
  simp only [finish, leads_run_bind, leads_journey_pulse, leads_journey_tell, leads_run_lift]
  exact (timeless_fire setup _).patient ⟨h.1, h.2.pulse.inTime.tell _⟩

end Journey

/-- None of the events of a part of a traversal, nor any one below them, is of a kind. -/
def Leg.Without (k : Kind) : Leg → Prop
  | .single event _ => event.Without k
  | .siblings events _ => ∀ event ∈ events, event.Without k
  | .rows children _ _ => ∀ event ∈ children, event.Without k
  | .within event _ result => event.Without k ∧ ∀ opened included, result = .ok opened →
      opened.inner = .events included → ∀ event ∈ included, event.Without k

/-- What belongs to an event is without a kind if the event is and what it includes. -/
theorem Inner.leg_without {k : Kind} {inner : Inner} {parent : Option Element}
    (hchildren : ∀ child ∈ event.children, child.Without k)
    (hincluded : ∀ included, inner = .events included → ∀ event ∈ included, event.Without k) :
    (inner.leg event.children parent).Without k := by
  cases inner with
  | nothing => exact fun _ hmem => by cases hmem
  | rows cells => exact hchildren
  | events included => exact hincluded included rfl

theorem Event.Without.lastChildren {k : Kind} (h : event.Without k) :
    ∀ child ∈ event.lastChildren, child.Without k := by
  unfold Event.lastChildren
  split
  · exact h.children
  · exact fun _ hmem => by cases hmem

/-- **On a tour time passes only as far as the watchdog allows for it.** -/
theorem Tour.patient (hcalm : setup.Calm o) {leg : Leg} {m m' : Moment σ} {stays : List (Stay σ)}
    {r : Except Error Unit} (h : Tour setup o leg m stays r m')
    (hleg : leg.Without (.command .execute)) (hm : InTime m.session m.world) :
    InTime m'.session m'.world := by
  -- what an event includes has been answered by the loader
  have hopens {event : Event} {parent : Option Element} {result : Except Mishap Opened}
      {m carried : Moment σ} (hwithout : event.Without (.command .execute))
      (hm : InTime m.session m.world)
      (hopen : Comes o (Passage.openEvent setup event parent).run (m.starting event parent) result
        carried) :
      InTime carried.session carried.world ∧
        (Leg.within event parent result).Without (.command .execute) := by
    refine ⟨hopen.of_leads (patient_openEvent hcalm hwithout.kind_ne parent hm.1
      (hm.2.tell _).pulse), hwithout, fun opened included hresult hinner => ?_⟩
    have hopened := (hopen.of_leads (visits_openEvent event parent)).2.2 opened hresult
    cases hopened with
    | script _ _ hloaded =>
      cases hinner
      exact hcalm.loads _ _ ⟨_, _, hloaded⟩
    | rows | noRows | command | frame | element => cases hinner
  induction h with
  | none | noRow | stoppedRow | failed => exact hm
  | stopped _ => exact ⟨hm.1, hm.2.tell _⟩
  | next _ _ _ ihhere ihlater =>
    rw [Leg.Without, List.forall_mem_cons] at hleg
    exact ihlater hleg.2 (ihhere hleg.1 hm)
  | ended _ _ ih =>
    rw [Leg.Without, List.forall_mem_cons] at hleg
    exact ih hleg.1 hm
  | nextRow _ _ _ _ ihhere ihlater => exact ihlater hleg (ihhere hleg ⟨hm.1, hm.2.tell _⟩)
  | endedRow _ _ _ ih => exact ih hleg ⟨hm.1, hm.2.tell _⟩
  | opened _ _ ihinner ihbelow =>
    refine ihbelow hleg.1.lastChildren (ihinner ?_ hm)
    exact Inner.leg_without hleg.1.children fun included => hleg.2 _ included rfl
  | halted _ hreport ih =>
    refine hreport.of_leads (Journey.patient_report _ _ (ih ?_ hm))
    exact Inner.leg_without hleg.1.children fun included => hleg.2 _ included rfl
  | finished hopen _ hsettle hfinish ih =>
    obtain ⟨hcarried, hwithin⟩ := hopens hleg hm hopen
    exact hfinish.of_leads (Journey.patient_finish _ _
      (hsettle.of_leads (Journey.patient_settle hcalm _ _ (ih hwithin hcarried))))
  | lost hopen _ hsettle ih =>
    obtain ⟨hcarried, hwithin⟩ := hopens hleg hm hopen
    exact hsettle.of_leads (Journey.patient_settle hcalm _ _ (ih hwithin hcarried))
  | unwound hopen _ ih =>
    obtain ⟨hcarried, hwithin⟩ := hopens hleg hm hopen
    exact ih hwithin hcarried

/-! ## Runs -/

namespace World

/-- Who may yet stop the run: the owner as planned at first, or no one any more. -/
def Owned (stopAt : Option Duration) (w : World σ) : Prop :=
  ∀ t, w.stopAt = some t → stopAt = some t

theorem Owned.lookUntil {stopAt : Option Duration} (h : w.Owned stopAt) (next : Duration) :
    (w.lookUntil next).Owned stopAt := by
  unfold World.lookUntil
  split
  · split <;> exact h
  · exact h

theorem Owned.stop {stopAt : Option Duration} (h : w.Owned stopAt) (who : Stopper) :
    (w.stop who).Owned stopAt := by
  unfold World.stop
  split <;> exact h

theorem Elapses.owned {ok : Stopper → Prop} {stopAt : Option Duration} (h : w.Elapses ok w')
    (hw : w.Owned stopAt) : w'.Owned stopAt := by
  induction h with
  | refl => exact hw
  | records _ _ ih | acts _ _ ih => exact ih
  | stops who _ _ _ ih => exact ih.stop who
  | @passes w' due next _ _ _ ih => exact ih.lookUntil next
  | @trips w' _ _ _ ih =>
    have hchecked : (w'.withWatchdog (w'.watchdog.check w'.now)).Owned stopAt := ih
    exact hchecked.stop .watchdog
  | leaves _ _ => exact fun _ heq => by cases heq

theorem Owned.answer {stopAt : Option Duration} (hw : w.Owned stopAt) {r : Request} {x : r.Answer}
    (h : w.answer o r = some (x, w')) : w'.Owned stopAt := by
  cases r with
  | step g s =>
    obtain rfl : (w.step o g s).2 = w' := congrArg (·.2) (Option.some.inj h)
    refine (elapses_step o g w s).owned ?_
    rcases s with (_ | _ | _ | _ | _) | _ | _ <;> exact hw
  | stop who => cases h; exact hw.stop _
  | tooDeep => cases h
  | _ => cases h; exact hw

theorem InTime.concluded (hw : w.InTime) (result : Except Error Unit) :
    (w.concluded result).InTime := by
  cases result with
  | error e => exact hw.tell _
  | ok _ => exact hw

end World

section Runs

variable {calendar : Calendar} {stopAt : Option Duration} {events : List Event} {outside : σ}
  {ended : Ended σ}

end Runs
end PageScript
