import PageScript.Proofs.Course
import PageScript.Proofs.Histories
import PageScript.Proofs.ActInvariants

/-!
# What is added to a history

Much of what happens in a run is neither a stage nor a word to the watchdog: things are said, the
browser is called, and the supervisor looks on. That is all that a step and a plugin's task add to
a history. While an event is carried out plugins may run besides, but no plugin of the end of a
test; such asides take no part in the traversal.
-/

namespace PageScript

namespace Happening

/-- Something that is neither a stage nor a word to the watchdog. -/
def Passing : Happening → Prop
  | .called _ => True
  | .notice (.report _) | .notice (.sight _) | .notice (.record _) => True
  | .mark (.looked ..) | .mark (.stopped ..) => True
  | .mark (.pulsed _) | .mark (.extended _) => False
  | .stage _ => False

/-- Something that the supervisor or the outside adds of itself; whoever stops the run is as
said. -/
inductive Ambient (ok : Stopper → Prop) : Happening → Prop where
  | record (r : Record) : Ambient ok (.notice (.record r))
  | looked (first next : Duration) : Ambient ok (.mark (.looked first next))
  | stopped {who : Stopper} (t : Duration) : ok who → Ambient ok (.mark (.stopped who t))

theorem Ambient.passing {ok : Stopper → Prop} {h : Happening} (hambient : h.Ambient ok) :
    h.Passing := by
  cases hambient <;> trivial

/-- A plugin of a phase starts or ends. -/
inductive OfPlugin (phase : Option Phase) : Happening → Prop where
  | started (name : String) : OfPlugin phase (.stage (.pluginStarted name phase))
  | ended (name : String) : OfPlugin phase (.stage (.pluginEnded name phase))
  | left (name : String) : OfPlugin phase (.stage (.pluginLeft name phase))

/-- Something that may happen while an event is carried out. -/
inductive Aside : Happening → Prop where
  | passing {h : Happening} : h.Passing → Aside h
  | occasion {o : Occasion} : o.phase ≠ .afterTest → Aside (.stage (.occasion o))
  | plugin {phase : Option Phase} {h : Happening} : phase ≠ some .afterTest → h.OfPlugin phase →
      Aside h

/-- Something that may happen at the end of a test. -/
inductive Closing : Happening → Prop where
  | passing {h : Happening} : h.Passing → Closing h
  | occasion : Closing (.stage (.occasion { phase := .afterTest }))
  | plugin {h : Happening} : h.OfPlugin (some .afterTest) → Closing h

end Happening

theorem passing_remark (r : Remark) : (Happening.notice r.notice).Passing := by
  cases r <;> trivial

namespace World

variable {σ α : Type} {o : Outside σ} {ok : Stopper → Prop} {C : Happening → Prop}
  {w w' w'' : World σ}

/-- All that is added to the history from one world to another is of some class. -/
def Adds (C : Happening → Prop) (w w' : World σ) : Prop :=
  ∃ added, w'.history = added ++ w.history ∧ ∀ h ∈ added, C h

theorem Adds.refl (C : Happening → Prop) (w : World σ) : w.Adds C w :=
  ⟨[], rfl, fun _ hmem => by cases hmem⟩

theorem Adds.trans (h : w.Adds C w') (h' : w'.Adds C w'') : w.Adds C w'' := by
  obtain ⟨added, heq, hall⟩ := h
  obtain ⟨added', heq', hall'⟩ := h'
  refine ⟨added' ++ added, by rw [heq', heq, List.append_assoc], fun x hx => ?_⟩
  exact (List.mem_append.1 hx).elim (hall' x) (hall x)

theorem Adds.mono {D : Happening → Prop} (h : w.Adds C w') (imp : ∀ h, C h → D h) :
    w.Adds D w' := by
  obtain ⟨added, heq, hall⟩ := h
  exact ⟨added, heq, fun x hx => imp x (hall x hx)⟩

/-- What each addition keeps, all of them keep. -/
theorem Adds.keeps {P : List Happening → Prop} (hadds : w.Adds C w')
    (hstep : ∀ h past, C h → P past → P (h :: past)) (h : P w.history) : P w'.history := by
  obtain ⟨added, heq, hall⟩ := hadds
  rw [heq]
  clear heq
  induction added with
  | nil => exact h
  | cons new added ih =>
    exact hstep new _ (hall new (.head _)) (ih fun x hx => hall x (.tail _ hx))

theorem Adds.of_history_eq (h : w'.history = w.history) : w.Adds C w' :=
  ⟨[], h, fun _ hmem => by cases hmem⟩

theorem Adds.of_cons {h : Happening} (hclass : C h) (heq : w'.history = h :: w.history) :
    w.Adds C w' :=
  ⟨[h], heq, fun _ hmem => by cases List.mem_singleton.1 hmem; exact hclass⟩

/-! ## Requests -/

theorem adds_say (w : World σ) (r : Remark) : w.Adds Happening.Passing (w.say r) :=
  .of_cons (passing_remark r) rfl

theorem adds_stop (w : World σ) {who : Stopper} (hok : ok who) :
    w.Adds (Happening.Ambient ok) (w.stop who) := by
  unfold stop
  split
  · exact .refl _ w
  · exact .of_cons (.stopped w.now hok) rfl

theorem adds_lookUntil (w : World σ) (next : Duration) :
    w.Adds (Happening.Ambient ok) (w.lookUntil next) := by
  unfold lookUntil
  split
  · rename_i tick _
    split
    · exact .of_cons (.looked tick next) rfl
    · exact .refl _ w
  · exact .refl _ w

theorem Elapses.adds (h : w.Elapses ok w') : w.Adds (Happening.Ambient ok) w' := by
  induction h with
  | refl => exact .refl _ w
  | records r _ ih => exact ih.trans (.of_cons (.record r) rfl)
  | stops who _ hok _ ih => exact ih.trans (adds_stop _ hok)
  | @passes w' due next _ _ _ ih =>
    exact (ih.trans (adds_lookUntil w' next)).trans (.of_history_eq rfl)
  | @trips w' hok _ _ ih =>
    -- the check changes the watchdog, the stop and the record are told of
    have hcheck := ih.trans (.of_history_eq (history_withWatchdog w' (w'.watchdog.check w'.now)))
    exact (hcheck.trans (adds_stop _ hok)).trans (.of_cons (.record _) rfl)
  | leaves _ ih => exact ih.trans (.of_history_eq rfl)
  | acts s _ ih => exact ih.trans (.of_history_eq rfl)

theorem Elapses.adds_passing (h : w.Elapses ok w') : w.Adds Happening.Passing w' :=
  h.adds.mono fun _ => Happening.Ambient.passing

theorem adds_passing_stop (w : World σ) (who : Stopper) :
    w.Adds Happening.Passing (w.stop who) :=
  have hadds : w.Adds (Happening.Ambient fun _ => True) (w.stop who) := adds_stop w trivial
  hadds.mono fun _ => Happening.Ambient.passing

theorem adds_step (o : Outside σ) (g : Guard) (w : World σ) (s : Step) :
    w.Adds Happening.Passing (w.step o g s).2 := by
  have hnote : w.Adds Happening.Passing (w.noteStep s) := by
    rcases s with (_ | _ | _ | _ | _) | _ | _ <;>
      first | exact .refl _ w | exact .of_cons (h := .called _) trivial rfl
  exact hnote.trans (elapses_step o g w s).adds_passing

/-! ## Plugins and events -/

theorem adds_guarded (g : Guard) (s : Step) :
    w.Leads o (Worker.guarded g s) fun _ w' => w.Adds Happening.Passing w' := by
  rw [leads_guarded]
  split
  · exact .refl _ w
  · exact adds_step o g w s

theorem under_adds (o : Outside σ) (g : Guard) (w : World σ) (hpassing : ∀ h, h.Passing → C h) :
    Under o g (w.Adds C) fun _ => w.Adds C :=
  .of_step (fun r h => h.trans ((adds_say _ r).mono hpassing))
    (fun h => h.trans ((adds_passing_stop _ _).mono hpassing))
    (fun s h => h.trans ((adds_step o g _ s).mono hpassing))

/-- A plugin's run adds its own start and end, and nothing else that counts. -/
theorem adds_plugin (hpassing : ∀ h, h.Passing → C h) {phase : Option Phase}
    (hplugin : ∀ h, Happening.OfPlugin phase h → C h) (p : Plugin) (g : Guard)
    (c : PluginContext) : w.Leads o (p.run g phase c) fun _ w' => w.Adds C w' := by
  refine (under_adds o g w hpassing).plugin p c (fun _ => .refl C w) (fun _ => ?_)
    (fun w' _ h => ?_) fun w' _ h => ?_
  · exact .of_cons (hplugin _ (.started p.name)) rfl
  · exact h.trans (.of_cons (hplugin _ (.ended p.name)) rfl)
  · exact h.trans (.of_cons (hplugin _ (.left p.name)) rfl)

/-- While an event is carried out only asides are added. -/
theorem kept_adds (o : Outside σ) (w : World σ) : Kept o (w.Adds Happening.Aside) where
  say r h := h.trans ((adds_say _ r).mono fun _ => .passing)
  step s h := (adds_guarded _ s).mono fun _ _ h' => h.trans (h'.mono fun _ => .passing)
  occasion _ hphase h := h.trans (.of_cons (.occasion hphase) rfl)
  plugin p c hphase h :=
    (adds_plugin (fun _ => .passing) (fun _ => .plugin hphase) p _ c).mono
      fun _ _ h' => h.trans h'

/-- What asides leave as it is in a history is kept while an event is carried out. -/
theorem kept_of_asides {P : List Happening → Prop}
    (hP : ∀ h past, h.Aside → P past → P (h :: past)) : Kept o fun w => P w.history where
  say r h := ((kept_adds o _).say r (.refl _ _)).keeps hP h
  step s h := ((kept_adds o _).step s (.refl _ _)).mono fun _ _ h' => h'.keeps hP h
  occasion hstop hphase h := ((kept_adds o _).occasion hstop hphase (.refl _ _)).keeps hP h
  plugin p c hphase h := ((kept_adds o _).plugin p c hphase (.refl _ _)).mono
    fun _ _ h' => h'.keeps hP h

end World

namespace Session

variable {σ : Type} {o : Outside σ} {C : Happening → Prop} {w : World σ}

theorem adds_dispatch (setup : Setup) (s : Session) (hpassing : ∀ h, h.Passing → C h)
    {occasion : Occasion} (hplugin : ∀ h, Happening.OfPlugin (some occasion.phase) h → C h)
    (g : Guard) : w.Leads o (s.dispatch setup g occasion) fun _ w' => w.Adds C w' :=
  leads_dispatch setup s (fun w' r _ h => h.trans ((World.adds_say w' r).mono hpassing))
    ((World.adds_guarded g _).mono fun _ _ h => h.mono hpassing)
    (fun _ p c h => (World.adds_plugin hpassing hplugin p g c).mono fun _ _ h' => h.trans h')
    (.refl C w)

/-- At the end of a test nothing is added but what the plugins at the end of a test come with. -/
theorem adds_fireAfterTest (setup : Setup) (s : Session) :
    w.Leads o (s.fireAfterTest setup) fun _ w' => w.Adds Happening.Closing w' := by
  have hoccasion : w.Adds Happening.Closing
      (w.tell (.stage (.occasion { phase := .afterTest }))) := .of_cons .occasion rfl
  rw [leads_fireAfterTest]
  refine (adds_dispatch (C := Happening.Closing) setup s (fun _ => .passing) (fun _ => .plugin)
    _).mono fun ending w' h => ?_
  replace h := hoccasion.trans h
  cases ending with
  | finished => exact h
  | timeUp =>
    refine World.Adds.trans ?_ ((World.adds_say _ _).mono fun _ => .passing)
    split
    · exact h
    · exact h.trans ((World.adds_passing_stop w' _).mono fun _ => .passing)

end Session

/-! ## Before the first event and after the last one -/

section Course

variable {σ : Type} {setup : Setup} {o : Outside σ} {calendar : Calendar}
  {stopAt : Option Duration} {events : List Event} {outside : σ} {ended : Ended σ}

/-- What remarks and the passing of time keep holds when the events of a test begin. -/
theorem World.keeps_opened {P : World σ → Prop} (hsay : ∀ {w} r, r.Tame → P w → P (w.say r))
    (helapses : ∀ {ok} {w w' : World σ}, w.Elapses ok w' → P w → P w')
    (hdawn : P (dawn setup calendar stopAt outside)) (events : List Event) :
    P (opened setup calendar stopAt events outside) := by
  have hstart := helapses (elapses_start setup calendar stopAt outside) hdawn
  have hopening := hsay (setup.opening events) (fun _ heq => by cases heq) hstart
  exact hsay (.log _) (fun _ heq => by cases heq) hopening

theorem World.coherent_opened (setup : Setup) (calendar : Calendar) (stopAt : Option Duration)
    (events : List Event) (outside : σ) :
    (opened setup calendar stopAt events outside).Coherent :=
  keeps_opened (fun r _ h => h.say r) (fun helapses h => helapses.coherent h)
    (coherent_dawn setup calendar stopAt outside) events

/-- What remarks and the passing of time keep, the last word of the supervisor and the owner keep. -/
theorem Course.keeps_end (course : Course setup o calendar stopAt events outside ended)
    {P : World σ → Prop} (hsay : ∀ {w} r, r.Tame → P w → P (w.say r))
    (helapses : ∀ {ok} {w w' : World σ}, w.Elapses ok w' → P w → P w') (h : P course.after) :
    P ended.world := by
  have hconcluded : P (course.after.concluded course.result) := by
    cases course.result with
    | error e => exact hsay _ (fun _ heq => by cases heq) h
    | ok _ => exact h
  rw [course.world_eq]
  exact helapses (World.elapses_awaitOwner _) (helapses (World.elapses_settle _) hconcluded)

theorem adds_opened (setup : Setup) (calendar : Calendar) (stopAt : Option Duration)
    (events : List Event) (outside : σ) : (World.dawn setup calendar stopAt outside).Adds
      Happening.Passing (World.opened setup calendar stopAt events outside) :=
  World.keeps_opened (P := (World.dawn setup calendar stopAt outside).Adds Happening.Passing)
    (fun r _ h => h.trans (World.adds_say _ r))
    (fun helapses h => h.trans helapses.adds_passing) (.refl _ _) events

theorem Course.adds_plugins
    (course : Course setup o calendar stopAt events outside ended) :
    course.before.Adds Happening.Closing course.after :=
  course.session.adds_fireAfterTest setup _ _ course.run_plugins

theorem Course.adds_end (course : Course setup o calendar stopAt events outside ended) :
    course.after.Adds Happening.Passing ended.world :=
  course.keeps_end (fun r _ h => h.trans (World.adds_say _ r))
    (fun helapses h => h.trans helapses.adds_passing) (.refl _ _)

theorem Course.later_after (course : Course setup o calendar stopAt events outside ended) :
    course.before.Later course.after :=
  World.leads_later _ _ _ course.run_plugins

theorem Course.later_end (course : Course setup o calendar stopAt events outside ended) :
    course.after.Later ended.world :=
  course.keeps_end (fun r _ h => h.trans (World.later_tell _ r.notice))
    (fun helapses h => h.trans helapses.later) (.refl _)

end Course

end PageScript
