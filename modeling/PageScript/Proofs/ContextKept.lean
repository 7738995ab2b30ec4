import PageScript.Proofs.AllowedMoves
import PageScript.Proofs.AnsweredSteps
import PageScript.Proofs.AfterStop
import PageScript.Proofs.ActInvariants
import PageScript.Proofs.RestoredContext

/-!
# The context between its changes

Something of the outside may be such that only those calls change it that change the frame, or the
window, in which the browser is called. It is kept by every act that leaves this part of the context
alone, whatever else the act asks for. Plugins may be run on the way, and they make calls of their own;
so this is said of runs in which no plugin changes that part of the context. Since nothing that has
happened is undone, such a run is clear of stops and of these changes at every earlier point as well.
-/

namespace PageScript

variable {σ α : Type} {o : Outside σ} {k : Shift} {K : σ → σ → Prop} {setup : Setup}
  {s s' : Session} {w w' : World σ} {event : Event}

/-- The outside keeps something in all that it is asked for, but for the changes of a part of the
context. -/
structure Outside.Keeps (o : Outside σ) (k : Shift) (K : σ → σ → Prop) : Prop where
  refl : ∀ x, K x x
  trans : ∀ {x y z}, K x y → K y z → K x z
  answer : ∀ {a x r y}, a.shift? ≠ some k → (o a x).ending = some (r, y) → K x y

/-- No plugin changes a part of the context. -/
def pluginLaw (k : Shift) : Happening → List Happening → Prop
  | .called c, past => (underWay past).isSome = true → c.shift? ≠ some k
  | .notice _, _ => True

instance : ∀ (h : Happening) (past : List Happening), Decidable (pluginLaw k h past)
  | .called c, past => inferInstanceAs (Decidable ((underWay past).isSome = true → c.shift? ≠ some k))
  | .notice _, _ => inferInstanceAs (Decidable True)

namespace World

/-- The run has not been stopped, and no plugin has changed a part of the context. -/
structure Clear (k : Shift) (w : World σ) : Prop where
  goes : w.isStopped = false
  abides : Abides (pluginLaw k) w.history

theorem Later.clear (h : w.Later w') (hclear : w'.Clear k) : w.Clear k :=
  ⟨h.goes hclear.goes, hclear.abides.suffix h.history⟩

/-- From one world on to a later one something is kept, if the run is clear by then. -/
structure Preserves (k : Shift) (K : σ → σ → Prop) (w w' : World σ) : Prop where
  later : w.Later w'
  keeps : w'.Clear k → K w.outside w'.outside

namespace Preserves

theorem of_outside_eq (hkeeps : o.Keeps k K) (hlater : w.Later w')
    (h : w'.outside = w.outside) : w.Preserves k K w' :=
  ⟨hlater, fun _ => by rw [h]; exact hkeeps.refl _⟩

theorem refl (hkeeps : o.Keeps k K) (w : World σ) : w.Preserves k K w :=
  of_outside_eq hkeeps (.refl w) rfl

theorem trans (hkeeps : o.Keeps k K) {w'' : World σ} (h : w.Preserves k K w')
    (h' : w'.Preserves k K w'') : w.Preserves k K w'' :=
  ⟨h.later.trans h'.later, fun hclear =>
    hkeeps.trans (h.keeps (h'.later.clear hclear)) (h'.keeps hclear)⟩

theorem tell (hkeeps : o.Keeps k K) (h : w.Preserves k K w') (n : Notice) :
    w.Preserves k K (w'.tell n) :=
  h.trans hkeeps (of_outside_eq hkeeps (later_tell w' n) rfl)

end Preserves

/-- A step of an event or of a plugin preserves a part of the context unless it is a call that changes
it. -/
theorem preserves_step (hkeeps : o.Keeps k K) (s : Step)
    (hshift : ∀ a, s = .act a → (w.step o (.untilStop none) s).2.Clear k → a.shift? ≠ some k) :
    w.Preserves k K (w.step o (.untilStop none) s).2 := by
  refine ⟨(later_noteStep w s).trans (elapses_step o _ w s).later, fun hclear => ?_⟩
  rcases hres : w.step o (.untilStop none) s with ⟨cut | x, w'⟩ <;> rw [hres] at hclear hshift
  · -- only a stop cuts it off, and then the run is not clear
    have hstop := isStopped_of_cut hres
    rw [hclear.goes] at hstop
    cases hstop
  · cases s with
    | act a => exact hkeeps.answer (hshift a rfl hclear) (ending_of_act hres)
    | sleep d =>
      rw [outside_of_sleep hres]
      exact hkeeps.refl _
    | forever => cases hres

/-! ## Plugins -/

theorem underWay_step (s : Step) {g : Guard} :
    underWay (w.step o g s).2.history = underWay w.history := by
  have hnote : underWay (w.noteStep s).history = underWay w.history := by
    rcases s with (_ | _ | _ | _ | _) | _ | _ <;> rfl
  exact (elapses_step o g w s).adds.keeps (P := fun past => underWay past = underWay w.history)
    (fun _ _ hambient hpast => (underWay_ambient hambient).trans hpast) hnote

/-- A plugin that is under way preserves what no plugin changes. -/
theorem under_preserves (hkeeps : o.Keeps k K) (w₀ : World σ) : Under o (.untilStop none)
    (fun w => (underWay w.history).isSome = true ∧ w₀.Preserves k K w)
    fun _ w => w₀.Preserves k K w := by
  have hstep {w : World σ} (s : Step) (hway : (underWay w.history).isSome = true) :
      w.Preserves k K (w.step o (.untilStop none) s).2 := by
    refine preserves_step hkeeps s fun a heq hclear => ?_
    subst heq
    cases a with
    | call c =>
      -- the call is told of while the plugin is under way
      have hnote := hclear.abides.suffix (elapses_step o _ w (.act (.call c))).later.history
      exact (abides_cons.1 hnote).1 hway
    | _ => exact fun heq => by cases heq
  exact {
    say := fun r h => ⟨(congrArg Option.isSome (underWay_remark r)).trans h.1, h.2.tell hkeeps _⟩
    stop := by
      intro w h
      have hway : underWay (w.stop (.inside .plugin)).history = underWay w.history := by
        unfold World.stop
        split <;> rfl
      refine ⟨(congrArg Option.isSome hway).trans h.1, h.2.trans hkeeps ?_⟩
      exact .of_outside_eq hkeeps (later_stop w _) (outside_stop w _)
    step := by
      intro w w' s x h hres
      have hsteps := hstep s h.1
      have hway := underWay_step (o := o) (w := w) s (g := .untilStop none)
      rw [hres] at hsteps hway
      exact ⟨(congrArg Option.isSome hway).trans h.1, h.2.trans hkeeps hsteps⟩
    cut := by
      intro w w' s cut h hres
      have hsteps := hstep s h.1
      rw [hres] at hsteps
      exact h.2.trans hkeeps hsteps }

theorem preserves_plugin (hkeeps : o.Keeps k K) (p : Plugin) (phase : Option Phase)
    (c : PluginContext) :
    w.Leads o (p.run (.untilStop none) phase c) fun _ w' => w.Preserves k K w' := by
  have hrefl := Preserves.refl hkeeps w
  exact (under_preserves hkeeps w).plugin p c (fun _ => hrefl)
    (fun _ => ⟨rfl, hrefl.tell hkeeps _⟩) (fun _ _ h => h.2.tell hkeeps _)
    fun _ _ h => h.tell hkeeps _

/-- The plugins of an occasion, and the query before them, preserve what no plugin changes. -/
theorem preserves_fire (hkeeps : o.Keeps k K) (s : Session) (occasion : Occasion) :
    w.Leads o (s.fire setup occasion) fun _ w' => w.Preserves k K w' := by
  have hrefl := Preserves.refl hkeeps w
  rw [Session.leads_fire]
  split
  · exact hrefl
  · refine Session.leads_dispatch setup s (P := fun w' => w.Preserves k K w')
      (fun w' r _ h => h.tell hkeeps _) ?_ (fun w' p c h => ?_) (hrefl.tell hkeeps _)
    · rw [Worker.call, leads_guarded]
      split
      · exact hrefl.tell hkeeps _
      · exact (hrefl.tell hkeeps _).trans hkeeps
          (preserves_step hkeeps _ fun a heq _ => by cases heq; simp [Action.shift?, Call.shift?])
    · exact (preserves_plugin hkeeps p _ c).mono fun _ _ h' => h.trans hkeeps h'

end World

/-! ## Parts of events -/

namespace Stretch

/-- A part of a run preserves a part of the context; if this is the window, the run goes on remembering
the same one. -/
structure Preserved (k : Shift) (K : σ → σ → Prop) (s : Session) (w : World σ) (s' : Session)
    (w' : World σ) : Prop extends w.Preserves k K w' where
  window_eq : k = .window → s'.window = s.window

theorem Preserved.refl (hkeeps : o.Keeps k K) (s : Session) (w : World σ) :
    Preserved k K s w s w :=
  ⟨.refl hkeeps w, fun _ => rfl⟩

theorem Preserved.trans (hkeeps : o.Keeps k K) {s'' : Session} {w'' : World σ}
    (h : Preserved k K s w s' w') (h' : Preserved k K s' w' s'' w'') : Preserved k K s w s'' w'' :=
  ⟨h.toPreserves.trans hkeeps h'.toPreserves, fun hk => (h'.window_eq hk).trans (h.window_eq hk)⟩

theorem preserved_move (hkeeps : o.Keeps k K) {m : Move} (hm : m.shift? ≠ some k) :
    Leads o (m.play setup) s w fun _ => Preserved k K s w := by
  have hrefl := Preserved.refl hkeeps s w
  cases m with
  | say r => exact leads_ofWorker _ |>.2 (World.leads_say r |>.2 ⟨hrefl.tell hkeeps _, fun _ => rfl⟩)
  | step st =>
    refine leads_ofWorker _ |>.2 (World.leads_guarded _ _ |>.2 ?_)
    split
    · exact hrefl
    · refine ⟨World.preserves_step hkeeps st fun a heq _ => ?_, fun _ => rfl⟩
      subst heq
      exact hm
  | now => exact leads_ofWorker _ |>.2 (World.leads_now.2 hrefl)
  | calendar => exact leads_ofWorker _ |>.2 (World.leads_calendar.2 hrefl)
  | session => exact leads_get.2 hrefl
  | edit e =>
    refine leads_modify _ |>.2 ⟨hrefl.toPreserves, fun hk => ?_⟩
    subst hk
    cases e <;> first | rfl | exact absurd rfl hm
  | aroundClick side event element =>
    refine leads_fire _ _ |>.2 ?_
    exact (World.preserves_fire hkeeps s _).mono fun _ _ h => ⟨h, fun _ => rfl⟩
  | plugin p element args =>
    simp only [Move.play, leads_bind, leads_get, leads_ofWorker]
    exact (World.preserves_plugin hkeeps p _ _).mono fun _ _ h => ⟨h, fun _ => rfl⟩

variable {kind : Kind}

theorem chains_preserved (hkeeps : o.Keeps k K) : Chains (Preserved (σ := σ) k K) :=
  ⟨.refl hkeeps, fun h h' => h.trans hkeeps h'⟩

theorem spreads_preserved (hkeeps : o.Keeps k K) (hkind : kind.shift? ≠ some k) :
    Act.Spreads setup event kind fun a =>
      ∀ (s : Session) (w : World σ), Leads o (a.play setup) s w fun _ => Preserved k K s w :=
  (chains_preserved hkeeps).spreads fun hallowed _ _ =>
    preserved_move hkeeps (hallowed.shift?_ne hkind)

theorem preserved_act (hkeeps : o.Keeps k K) (hkind : kind.shift? ≠ some k) {a : Act α}
    (ha : a.Composed setup event kind) : Leads o (a.play setup) s w fun _ => Preserved k K s w :=
  (spreads_preserved hkeeps hkind).composed ha s w

theorem preserved_passage (hkeeps : o.Keeps k K) (hkind : kind.shift? ≠ some k) {p : Passage α}
    (hp : p.Composed setup event kind) : Leads o p.run s w fun _ => Preserved k K s w := by
  have hextended (d : Duration) (s : Session) (w : World σ) :
      Preserved k K s w s (w.extend d) := by
    have hlater : w.Later (w.extend d) := ⟨List.suffix_cons _ _, id, Nat.le_refl _⟩
    exact ⟨.of_outside_eq hkeeps hlater rfl, fun _ => rfl⟩
  exact (chains_preserved hkeeps).leads_passage (fun ha _ _ => preserved_act hkeeps hkind ha)
    hextended hp s w

/-- Only a frame event restores the frame, and only an event that attaches restores the window. -/
theorem kind_of_restore {m carried : Moment σ} {parent : Option Element} {opened : Opened}
    (hopen : Comes o (Passage.openEvent setup event parent).run (m.starting event parent)
      (.ok opened) carried) (hgoes : carried.world.isStopped = false) :
    (opened.restore.shift? = some .frame → event.kind = .frame) ∧
      (opened.restore.shift? = some .window → event.kind = .command .attach) := by
  have howes : Stay.Owes o ⟨⟨event, parent, .ok opened⟩, m, carried, [], none⟩ opened.restore :=
    owes_openEvent _ hopen hgoes
  generalize opened.restore = r at howes
  cases howes with
  | frame _ _ _ hframe => exact ⟨fun _ => hframe, fun heq => by cases heq⟩
  | attach _ _ hattach => exact ⟨fun heq => (by cases heq), fun _ => hattach⟩
  | failed | other => exact ⟨fun heq => (by cases heq), fun heq => by cases heq⟩

/-- To report a failure changes nothing but what is told. -/
theorem still_report (event : Event) (failure : Failure) :
    Leads o (Journey.report event failure).run s w fun _ s' w' =>
      s' = s ∧ w.Later w' ∧ w'.outside = w.outside := by
  have htold := World.later_tell w (.stage (.failed event failure))
  refine (Journey.leads_report event failure).mono fun _ _ _ h => ?_
  cases h with
  | own _ r => exact ⟨rfl, htold.trans (World.later_tell _ _), rfl⟩
  | lost _ r => exact ⟨rfl, htold.trans (World.later_tell _ _), rfl⟩
  | halted _ => exact ⟨rfl, htold, rfl⟩

theorem preserved_report (hkeeps : o.Keeps k K) (event : Event) (failure : Failure) :
    Leads o (Journey.report event failure).run s w fun _ => Preserved k K s w := by
  refine (still_report event failure).mono ?_
  rintro r s' w' ⟨rfl, hlater, houtside⟩
  exact ⟨.of_outside_eq hkeeps hlater houtside, fun _ => rfl⟩

/-- An event is settled without changing what it does not restore. -/
theorem preserved_settle (hkeeps : o.Keeps k K) (event : Event) (result : Except Mishap Opened)
    (h : ∀ opened, result = .ok opened → opened.restore.shift? ≠ some k) :
    Leads o (Journey.settle setup event result).run s w fun _ => Preserved k K s w := by
  cases result with
  | error mishap => exact preserved_report hkeeps event _
  | ok opened =>
    have hkind : opened.restore.kind.shift? ≠ some k := by
      rw [opened.restore.shift?_kind]
      exact h opened rfl
    refine Journey.leads_settle
      ((preserved_passage hkeeps hkind (Passage.composed_restore event opened.restore)).mono ?_)
    intro result s₁ w₁ hrest
    cases result with
    | ok _ => exact hrest
    | error mishap =>
      exact (preserved_report hkeeps event _).mono fun _ _ _ h' => hrest.trans hkeeps h'

theorem preserved_finish (hkeeps : o.Keeps k K) (event : Event) (element : Option Element) :
    Leads o (Journey.finish setup event element).run s w fun _ => Preserved k K s w := by
  have hlater : w.Later w.pulse := ⟨List.suffix_cons _ _, id, Nat.le_refl _⟩
  have htold : w.Preserves k K (w.pulse.tell (.stage (.finished event element))) :=
    (World.Preserves.of_outside_eq hkeeps hlater rfl).tell hkeeps _
  simp only [Journey.finish, leads_run_bind, leads_journey_pulse, leads_journey_tell,
    leads_run_lift, leads_fire]
  exact (World.preserves_fire hkeeps _ _).mono fun _ _ h => ⟨htold.trans hkeeps h, fun _ => rfl⟩

/-- What a run remembers of the window in use, once the browser has been asked for it. -/
def noting (s : Session) : Except Cut (Except BrowserError String) → Session
  | .ok (.ok handle) => s.edit (.setWindow (some handle))
  | _ => s

/-- Before the events the browser is asked for the window in use, and then plugins are run. -/
theorem leads_begin {Q : Session → World σ → Prop}
    (h : w.Leads o (Worker.call (.untilStop none) .currentWindow) fun x w₁ =>
      w₁.Leads o ((noting s x).fire setup { phase := .beforeTest }) fun _ w' =>
        Q (noting s x) w') :
    Leads o (Journey.noteWindow >>= fun _ => fire setup { phase := .beforeTest }) s w
      fun _ s' w' => Q s' w' := by
  rw [leads_bind, Journey.noteWindow, leads_bind, leads_ofWorker]
  refine h.mono fun x w₁ hfire => ?_
  rcases x with _ | _ | handle
  · exact leads_pure () |>.2 (leads_fire _ _ |>.2 hfire)
  · exact leads_pure () |>.2 (leads_fire _ _ |>.2 hfire)
  · exact leads_modify _ |>.2 (leads_fire _ _ |>.2 hfire)

end Stretch
end PageScript
