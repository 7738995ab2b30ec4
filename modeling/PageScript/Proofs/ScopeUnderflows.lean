import PageScript.Proofs.ActComposition
import PageScript.Proofs.RunTours

/-!
# Scopes that underflow

To leave a scope fails where there is only one. In a run this never comes about, since the scope of
a row is left only after it has been entered, and all that comes between leaves the scopes as many
as they were. So no table event fails for it. No other event fails for it of itself either: where a
plugin or a loader answers with this error, the event that has asked passes it on.
-/

namespace PageScript

variable {σ α β : Type} {o : Outside σ} {setup : Setup} {event : Event} {s : Session} {w : World σ}

/-- A task may end with this, if it is given the right answers. -/
inductive Program.Ends {Request : Type} {Answer : Request → Type} {α : Type} :
    Program Request Answer α → α → Prop where
  | done (a : α) : Ends (.done a) a
  | ask {r : Request} {next : Answer r → Program Request Answer α} {a : α} (x : Answer r) :
      Ends (next x) a → Ends (.ask r next) a

/-- An event passes on an underflow that a plugin or the loader has answered with. -/
inductive Event.PassesUnderflow (setup : Setup) (o : Outside σ) (event : Event) : Prop where
  | plugin (r : Registration) (c : PluginContext) : event.kind = .command .javaplugin →
      r ∈ Configured.catalog setup.plugins → (r.plugin.execute c).Ends (.error .scopeUnderflow) →
      PassesUnderflow setup o event
  | loader (path : String) : event.kind = .command .script →
      o.Answers (.loadScript path) (.error .scopeUnderflow) → PassesUnderflow setup o event

/-- An event fails for an underflow only if it passes one on. -/
def Event.FailsSoundly (setup : Setup) (o : Outside σ) (event : Event) (m : Mishap) : Prop :=
  m = .fault .scopeUnderflow → event.PassesUnderflow setup o

/-- Whatever happens, no event fails for an underflow unless it passes one on. -/
def Happening.Sound (setup : Setup) (o : Outside σ) (h : Happening) : Prop :=
  ∀ event m, h = .stage (.failed event (.own m)) → event.FailsSoundly setup o m

theorem scopeUnderflow_of_ofError {e : Error} (h : Mishap.ofError e = .fault .scopeUnderflow) :
    e = .scopeUnderflow := by
  cases e with
  | browser b => cases b <;> cases h
  | cancelled => cases h
  | _ => exact Mishap.fault.inj h

theorem ofBrowser_ne (e : BrowserError) : Mishap.ofBrowser e ≠ .fault .scopeUnderflow := by
  cases e <;> exact fun heq => by cases heq

/-- A task under a guard that has come to its end has come to one of its own. -/
theorem leads_under_ends (g : Guard) (t : Task α) :
    w.Leads o (t.under g) fun r _ => ∀ x, r = .ok x → t.Ends x := by
  induction t generalizing w with
  | done a => exact World.leads_pure _ |>.2 fun _ heq => by cases heq; exact .done a
  | ask d next ih =>
    have hnext (x : d.Answer) (w : World σ) : w.Leads o (Task.under g (next x)) fun r _ =>
        ∀ a, r = Except.ok a → Program.Ends (Program.ask d next) a :=
      (ih x).mono fun _ _ h a heq => .ask x (h a heq)
    cases d with
    | say r =>
      rw [Task.under, World.leads_bind, World.leads_say]
      exact hnext () _
    | stop =>
      rw [Task.under, World.leads_bind, World.leads_stop]
      exact hnext () _
    | step st =>
      rw [Task.under, World.leads_bind, World.leads_step]
      rcases w.step o g st with ⟨cut | x, w'⟩
      · exact World.leads_pure _ |>.2 fun _ heq => by cases heq
      · exact hnext x w'

theorem leads_plugin_ends (p : Plugin) (g : Guard) (phase : Option Phase) (c : PluginContext) :
    w.Leads o (p.run g phase c) fun r _ => ∀ x, r = .ok x → (p.execute c).Ends x := by
  rw [Plugin.run, World.leads_unlessStopped]
  split
  · exact fun _ heq => by cases heq
  rw [World.leads_bind, World.leads_tell, World.leads_bind]
  refine (leads_under_ends g (p.execute c)).mono fun r w' h => ?_
  cases r with
  | ok x =>
    rw [World.leads_bind, World.leads_tell, World.leads_pure]
    exact h
  | error _ =>
    rw [World.leads_bind, World.leads_tell, World.leads_pure]
    exact h

namespace Stretch

/-! ## How acts fail -/

/-- However an act fails, it is in one of these ways. -/
def Fails (setup : Setup) (o : Outside σ) (a : Act α) (E : Mishap → Prop) : Prop :=
  ∀ s w, Leads o (a.play setup) s w fun r _ _ => ∀ m, r = .error m → E m

section Acts

variable {E : Mishap → Prop}

theorem fails_pure (a : α) : Fails setup o (pure a) E := fun _ _ =>
  leads_play_pure a |>.2 fun _ heq => by cases heq

theorem fails_fail {m : Mishap} (h : E m) : Fails setup o (Act.fail m : Act α) E := fun _ _ =>
  leads_play_fail m |>.2 fun _ heq => by cases heq; exact h

theorem fails_move (m : Move) : Fails setup o (Act.move m) E := fun _ _ =>
  leads_play_move m |>.2 <| (leads_trivial _).mono fun _ _ _ _ _ heq => by cases heq

/-- What comes after an act may count on what the act returns. -/
theorem fails_bind_of {R : β → Prop} {a : Act β} {f : β → Act α} (ha : Fails setup o a E)
    (hR : ∀ s w, Leads o (a.play setup) s w fun r _ _ => ∀ b, r = .ok b → R b)
    (hf : ∀ b, R b → Fails setup o (f b) E) : Fails setup o (a >>= f) E := fun s w => by
  rw [leads_play_bind]
  refine ((ha s w).and (hR s w)).mono fun r s' w' h => ?_
  cases r with
  | ok b => exact hf b (h.2 b rfl) s' w'
  | error m => exact fun _ heq => by cases heq; exact h.1 m rfl

theorem fails_bind {a : Act β} {f : β → Act α} (ha : Fails setup o a E)
    (hf : ∀ b, Fails setup o (f b) E) : Fails setup o (a >>= f) E :=
  fails_bind_of (R := fun _ => True) ha
    (fun _ _ => (leads_trivial _).mono fun _ _ _ _ _ _ => trivial)
    fun b _ => hf b

theorem fails_step (h : E .abort) (st : Step) : Fails setup o (Act.step st) E := by
  refine fails_bind (fails_move _) fun r => ?_
  cases r with
  | ok x => exact fails_pure x
  | error _ => exact fails_fail h

theorem fails_call (h : E .abort) (hb : ∀ e, E (.ofBrowser e)) (c : Call) :
    Fails setup o (Act.call c) E := by
  refine fails_bind (fails_step h _) fun r => ?_
  cases r with
  | ok x => exact fails_pure x
  | error e => exact fails_fail (hb e)

end Acts

/-! ## Events that pass an underflow on -/

theorem failsSoundly_of_ne {m : Mishap} (h : m ≠ .fault .scopeUnderflow) :
    event.FailsSoundly setup o m :=
  fun heq => absurd heq h

theorem failsSoundly_abort : event.FailsSoundly setup o .abort :=
  failsSoundly_of_ne fun heq => by cases heq

/-- A plugin that has been run by its name answers what it may end with. -/
theorem leads_play_plugin_ends (p : Plugin) (element : Option Element) (args : List String)
    (s : Session) (w : World σ) :
    Leads o (Act.play setup (Act.move (.plugin p element args))) s w fun r _ _ =>
      ∀ result, r = .ok result → ∀ x, result = .ok x → ∃ c, (p.execute c).Ends x := by
  rw [leads_play_move, Move.play, leads_bind, leads_get, leads_ofWorker]
  refine (leads_plugin_ends p _ none _).mono fun _ _ h result heq x hx => ?_
  cases heq
  exact ⟨_, h x hx⟩

theorem failsSoundly_ofBrowser (e : BrowserError) : event.FailsSoundly setup o (.ofBrowser e) :=
  failsSoundly_of_ne (ofBrowser_ne e)

theorem fails_asked {c : Call} {f : Except BrowserError c.Answer → Act α}
    (hok : ∀ x, Fails setup o (f (.ok x)) (event.FailsSoundly setup o))
    (herror : ∀ e, f (.error e) ≠ Act.fail (.ofBrowser e) →
      Fails setup o (f (.error e)) (event.FailsSoundly setup o)) :
    Fails setup o (Act.attempt c >>= f) (event.FailsSoundly setup o) := by
  refine fails_bind (fails_step failsSoundly_abort _) fun x => ?_
  cases x with
  | ok x => exact hok x
  | error e =>
    by_cases hpassed : f (.error e) = Act.fail (.ofBrowser e)
    · rw [hpassed]
      exact fails_fail (failsSoundly_ofBrowser e)
    · exact herror e hpassed

theorem fails_sought {wanted : List (String × String)} {parent : Option Element}
    {patience : Duration} {f : Except BrowserError Element → Act α}
    (hmissing : ∀ description, f (.error (.noSuchElement description)) =
      (Act.tellMissing event description >>= fun _ => Act.fail .abort))
    (hpassed : ∀ e, (∀ description, e ≠ .noSuchElement description) →
      f (.error e) = Act.fail (.ofBrowser e))
    (hok : ∀ x, Fails setup o (f (.ok x)) (event.FailsSoundly setup o)) :
    Fails setup o (Act.attempt (.find wanted parent patience) >>= f)
      (event.FailsSoundly setup o) := by
  refine fails_bind (fails_step failsSoundly_abort _) fun x => ?_
  rcases x with e | element
  · cases e with
    | noSuchElement description =>
      rw [hmissing]
      refine fails_bind ?_ fun _ => fails_fail failsSoundly_abort
      unfold Act.tellMissing
      split <;> exact fails_move _
    | _ =>
      rw [hpassed _ fun _ heq => by cases heq]
      exact fails_fail (failsSoundly_ofBrowser _)
  · exact hok element

/-- An underflow that the loader has answered with is passed on. -/
theorem fails_loaded (hkind : event.kind = .command .script) {path : String}
    {f : Except Error (List Event) → Act α} (hpassed : ∀ e, f (.error e) = Act.fail (.ofError e))
    (hok : ∀ events, Fails setup o (f (.ok events)) (event.FailsSoundly setup o)) :
    Fails setup o (Act.perform (.loadScript path) >>= f) (event.FailsSoundly setup o) := by
  refine fails_bind_of (fails_step failsSoundly_abort _) (fun _ _ => answers_perform _)
    fun result hanswer => ?_
  cases result with
  | ok events => exact hok events
  | error e =>
    rw [hpassed]
    refine fails_fail fun heq => ?_
    rw [scopeUnderflow_of_ofError heq] at hanswer
    exact .loader path hkind hanswer

/-- So is one that a plugin has answered with. -/
theorem fails_plugin (hkind : event.kind = .command .javaplugin) {r : Registration}
    (hmem : r ∈ Configured.catalog setup.plugins) {element : Option Element} {args : List String}
    {f : Except Cut (Except Error Unit) → Act α} (hcut : ∀ cut, f (.error cut) = Act.fail .abort)
    (hpassed : ∀ e, f (.ok (.error e)) = Act.fail (.ofError e))
    (hok : Fails setup o (f (.ok (.ok ()))) (event.FailsSoundly setup o)) :
    Fails setup o (Act.move (.plugin r.plugin element args) >>= f)
      (event.FailsSoundly setup o) := by
  refine fails_bind_of (fails_move _) (leads_play_plugin_ends r.plugin element args)
    fun result hends => ?_
  rcases result with cut | e | ⟨⟩
  · rw [hcut]
    exact fails_fail failsSoundly_abort
  · rw [hpassed]
    refine fails_fail fun heq => ?_
    obtain ⟨c, hends⟩ := hends _ rfl
    rw [scopeUnderflow_of_ofError heq] at hends
    exact .plugin r c hkind hmem hends
  · exact hok

/-- Whatever an event does, it fails for an underflow only if it passes one on. -/
theorem fails_composed {kind : Kind} (hpasses : kind.PassesOn → event.kind = kind) {a : Act α}
    (ha : a.Composed setup event kind) : Fails setup o a (event.FailsSoundly setup o) := by
  induction ha with
  | pure a => exact fails_pure a
  | fault hne _ => exact fails_fail (failsSoundly_of_ne fun heq => hne (Mishap.fault.inj heq))
  | bind _ _ iha ihf => exact fails_bind iha ihf
  | move _ | activate _ _ => exact fails_move _
  | fill raw => exact fails_bind (fails_move _) fun _ => fails_pure _
  | bound name _ ih => exact fails_bind (fails_move _) fun _ => ih _
  | remembered _ _ _ ih => exact fails_bind (fails_move _) ih
  | asked _ _ _ _ ihok iherror => exact fails_asked ihok iherror
  | sought _ hmissing hpassed _ ihok => exact fails_sought hmissing hpassed ihok
  | click element _ =>
    exact fails_bind (fails_move _) fun _ => fails_bind (fails_move _) fun _ =>
      fails_bind (fails_call failsSoundly_abort failsSoundly_ofBrowser _) fun _ => fails_move _
  | performed _ | rest _ => exact fails_step failsSoundly_abort _
  | loaded hkind hpassed _ ihok =>
    exact fails_loaded ((hpasses (.inr hkind)).trans hkind) hpassed ihok
  | plugin hkind hmem hcut hpassed _ ihok =>
    exact fails_plugin ((hpasses (.inl hkind)).trans hkind) hmem hcut hpassed ihok
  | told message _ hend =>
    rw [hend]
    exact fails_bind (fails_move _) fun _ => fails_fail failsSoundly_abort

/-! ## All events -/

theorem fails_passage {kind : Kind} (hpasses : kind.PassesOn → event.kind = kind) {p : Passage α}
    (hp : p.Composed setup event kind) : Leads o p.run s w fun r _ _ =>
      ∀ m, r = .error m → event.FailsSoundly setup o m := by
  induction hp generalizing s w with
  | pure a => exact leads_run_pure a |>.2 fun _ heq => by cases heq
  | act ha => exact fails_composed hpasses ha s w
  | extend d _ => exact leads_passage_extend d |>.2 fun _ heq => by cases heq
  | bind _ _ ihp ihf =>
    rw [leads_run_bind]
    refine ihp.mono fun r s' w' h => ?_
    cases r with
    | ok b => exact ihf b
    | error m => exact fun _ heq => by cases heq; exact h m rfl

/-- **No event fails for an underflow unless it passes one on.** -/
theorem fails_openEvent (event : Event) (parent : Option Element) :
    Leads o (Passage.openEvent setup event parent).run s w fun r _ _ =>
      ∀ m, r = .error m → event.FailsSoundly setup o m := by
  rw [Passage.openEvent, leads_run_bind, leads_run_lift]
  refine (fails_passage (fun _ => rfl) (Passage.composed_carryOut event parent)).mono
    fun r s' w' h => ?_
  dsimp only
  rw [leads_run_bind, leads_passage_tell]
  exact leads_pure r |>.2 h

/-- What restores the context of the browser never fails for an underflow. -/
theorem fails_restore (event : Event) (r : Restore) :
    Leads o (Passage.restore setup r).run s w fun r _ _ =>
      ∀ m, r = .error m → event.FailsSoundly setup o m := by
  refine fails_passage (fun hpasses => ?_) (Passage.composed_restore event r)
  cases r <;> rcases hpasses with h | h <;> cases h

/-! ## Tours -/

section Tours

variable {m m' : Moment σ} {r : Except Error Unit} {parent : Option Element} {w' : World σ}

theorem sound_aside {h : Happening} (haside : h.Aside) : h.Sound setup o := by
  rintro event m rfl
  rcases haside with hpassing | _ | ⟨-, hplugin⟩
  · cases hpassing
  · cases hplugin

theorem sound_report {failure : Failure}
    (h : ∀ m, failure = .own m → event.FailsSoundly setup o m) :
    Leads o (Journey.report event failure).run s w fun _ _ w' =>
      w.Adds (Happening.Sound setup o) w' := by
  have htold : w.Adds (Happening.Sound setup o) (w.tell (.stage (.failed event failure))) :=
    .of_cons (fun _ m heq => by cases heq; exact h m rfl) rfl
  have hsaid (w : World σ) (r : Remark) : w.Adds (Happening.Sound setup o) (w.say r) :=
    (World.adds_say w r).mono fun _ hpassing => sound_aside (.passing hpassing)
  refine (Journey.leads_report event failure).mono fun _ _ _ hreports => ?_
  cases hreports with
  | own mishap r => exact htold.trans (hsaid _ r)
  | lost e r => exact htold.trans (hsaid _ r)
  | halted e => exact htold

theorem sound_settle (event : Event) {result : Except Mishap Opened}
    (h : ∀ m, result = .error m → event.FailsSoundly setup o m) :
    Leads o (Journey.settle setup event result).run s w fun _ _ w' =>
      w.Adds (Happening.Sound setup o) w' := by
  cases result with
  | error mishap => exact sound_report fun _ heq => by cases heq; exact h _ rfl
  | ok opened =>
    refine Journey.leads_settle (((Journey.adds_restore opened.restore).and
      (fails_restore event opened.restore)).mono ?_)
    rintro r s₁ w₁ ⟨hadds, hfails⟩
    replace hadds : w.Adds (Happening.Sound setup o) w₁ := hadds.mono fun _ => sound_aside
    cases r with
    | ok _ => exact hadds
    | error mishap =>
      exact (sound_report fun _ heq => by cases heq; exact hfails _ rfl).mono
        fun _ _ _ h => hadds.trans h

theorem sound_tell {n : Notice} (h : ∀ event failure, n ≠ .stage (.failed event failure)) :
    w.Adds (Happening.Sound setup o) (w.tell n) :=
  .of_cons (fun event _ heq => absurd (Happening.notice.inj heq) (h event _)) rfl

theorem sound_pulse : w.Adds (Happening.Sound setup o) w.pulse :=
  .of_cons (fun _ _ heq => by cases heq) (World.history_pulse w)

theorem sound_openEvent (event : Event) (parent : Option Element) :
    Leads o (Passage.openEvent setup event parent).run s w fun _ _ w' =>
      w.Adds (Happening.Sound setup o) w' := by
  refine Kept.openEvent (P := w.Adds (Happening.Sound setup o)) (World.kept_of_asides
    (P := fun past => ∃ added, past = added ++ w.history ∧ ∀ h ∈ added, h.Sound setup o) ?_)
    (fun w' d h => ?_) (fun w' event result h => ?_) event parent (.refl _ w)
  · rintro h past haside ⟨added, rfl, hall⟩
    exact ⟨h :: added, rfl, List.forall_mem_cons.2 ⟨sound_aside haside, hall⟩⟩
  · exact h.trans (.of_cons (fun _ _ heq => by cases heq) (World.history_extend w' d))
  · exact h.trans (sound_tell fun _ _ heq => by cases heq)

theorem sound_starting (m : Moment σ) (event : Event) (parent : Option Element) :
    m.world.Adds (Happening.Sound setup o) (m.starting event parent).world :=
  (sound_tell fun _ _ heq => by cases heq).trans sound_pulse

theorem sound_finish (event : Event) (element : Option Element) :
    Leads o (Journey.finish setup event element).run s w fun _ _ w' =>
      w.Adds (Happening.Sound setup o) w' := by
  refine (Journey.adds_finish event element).mono fun _ _ _ h => ?_
  have htold : w.pulse.Adds (Happening.Sound setup o)
      (w.pulse.tell (.stage (.finished event element))) := sound_tell fun _ _ heq => by cases heq
  exact (sound_pulse.trans htold).trans (h.2.mono fun _ => sound_aside)

/-- On a tour no event fails for an underflow unless it passes one on. -/
theorem spans_sound (setup : Setup) (o : Outside σ) :
    Tour.Spans setup o fun m _ _ m' => m.world.Adds (Happening.Sound setup o) m'.world where
  refl m := .refl _ _
  trans hhere hlater _ _ := hhere.trans hlater
  skips _ := (World.adds_say _ _).mono fun _ hpassing => sound_aside (.passing hpassing)
  row _ _ h := (sound_tell (n := .stage (.row _)) fun _ _ heq => by cases heq).trans h
  halts h hreport := h.trans (hreport.of_leads (sound_report fun _ heq => by cases heq))
  finishes hopen _ h hsettle hfinish := by
    have hcarried := (sound_starting _ _ _).trans (hopen.of_leads (sound_openEvent _ _))
    have hleft := hsettle.of_leads (sound_settle _ (hopen.of_leads (fails_openEvent _ _)))
    exact (hcarried.trans (h.trans hleft)).trans (hfinish.of_leads (sound_finish _ _))
  loses hopen _ h hsettle := by
    have hcarried := (sound_starting _ _ _).trans (hopen.of_leads (sound_openEvent _ _))
    have hleft := hsettle.of_leads (sound_settle _ (hopen.of_leads (fails_openEvent _ _)))
    exact hcarried.trans (h.trans hleft)
  unwinds hopen _ h := by
    exact ((sound_starting _ _ _).trans (hopen.of_leads (sound_openEvent _ _))).trans h

end Tours

end Stretch
end PageScript
