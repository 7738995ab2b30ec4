import PageScript.Proofs.LossHeeding
import PageScript.Proofs.Leads

/-!
# What is kept while events are carried out

Plugins, dispatches of plugins and acts are made of few things: remarks, steps under a guard,
occasions and plugins. What each of these keeps, all of them keep. `Kept` gathers what there is to
show of an invariant, and each layer above follows from the one below by induction on its own
structure: on the task of a plugin, on the list of plugins, on the program of an act.
-/

namespace PageScript

variable {σ α : Type} {o : Outside σ} {w : World σ} {P : World σ → Prop}

/-- What holds all the while a plugin goes on with its task under a guard, and what holds once the
task has been given up, which is a matter of the step at which it is. -/
structure Under (o : Outside σ) (g : Guard) (P : World σ → Prop) (P' : Cut → World σ → Prop) :
    Prop where
  say : ∀ {w} r, P w → P (w.say r)
  stop : ∀ {w}, P w → P (w.stop (.inside .plugin))
  step : ∀ {w w'} s x, P w → w.step o g s = (.ok x, w') → P w'
  cut : ∀ {w w'} s cut, P w → w.step o g s = (.error cut, w') → P' cut w'

namespace Under

variable {g : Guard} {P' : Cut → World σ → Prop}

/-- What a step keeps whatever comes of it holds of a task that is given up as well. -/
theorem of_step (hsay : ∀ {w} r, P w → P (w.say r))
    (hstop : ∀ {w}, P w → P (w.stop (.inside .plugin)))
    (hstep : ∀ {w} s, P w → P (w.step o g s).2) : Under o g P fun _ => P where
  say := hsay
  stop := hstop
  step s _ h heq := by
    have hnext := hstep s h
    rwa [heq] at hnext
  cut s _ h heq := by
    have hnext := hstep s h
    rwa [heq] at hnext

/-- A task keeps what each of its deeds keeps. -/
theorem task (hunder : Under o g P P') (t : Task α) (h : P w) :
    w.Leads o (t.under g) fun r w' =>
      match r with
      | .ok _ => P w'
      | .error cut => P' cut w' := by
  induction t generalizing w with
  | done a => exact World.leads_pure _ |>.2 h
  | ask d next ih =>
    cases d with
    | say r =>
      rw [Task.under, World.leads_bind, World.leads_say]
      exact ih () (hunder.say r h)
    | stop =>
      rw [Task.under, World.leads_bind, World.leads_stop]
      exact ih () (hunder.stop h)
    | step s =>
      rw [Task.under, World.leads_bind, World.leads_step]
      rcases hres : w.step o g s with ⟨cut | x, w'⟩
      · exact World.leads_pure _ |>.2 (hunder.cut s cut h hres)
      · exact ih x (hunder.step s x h hres)

/-- A plugin that a stop does not keep from its turn starts, goes on with its task, and ends or is
left. -/
theorem plugin (hunder : Under o g P P') {phase : Option Phase} (p : Plugin) (c : PluginContext)
    {Q : Except Cut (Except Error Unit) → World σ → Prop}
    (hcut : (g.heedsStop && w.isStopped) = true → Q (.error .cancelled) w)
    (hstart : (g.heedsStop && w.isStopped) = false →
      P (w.tell (.stage (.pluginStarted p.name phase))))
    (hended : ∀ w' r, P w' → Q (.ok r) (w'.tell (.stage (.pluginEnded p.name phase))))
    (hleft : ∀ w' cut, P' cut w' → Q (.error cut) (w'.tell (.stage (.pluginLeft p.name phase)))) :
    w.Leads o (p.run g phase c) Q := by
  rw [Plugin.run, World.leads_unlessStopped]
  split
  · rename_i hstop
    exact hcut hstop
  rename_i hgo
  rw [World.leads_bind, World.leads_tell, World.leads_bind]
  refine (hunder.task (p.execute c) (hstart (Bool.eq_false_iff.2 hgo))).mono fun r w' h' => ?_
  cases r with
  | ok r =>
    rw [World.leads_bind, World.leads_tell, World.leads_pure]
    exact hended w' r h'
  | error cut =>
    rw [World.leads_bind, World.leads_tell, World.leads_pure]
    exact hleft w' cut h'

end Under

namespace Session

variable {g : Guard} {occasion : Occasion}

/-- That a plugin has failed is not reported as the loss of the browser. -/
theorem tame_failed (name : String) (e : Error) :
    (Remark.exception ("Plugin '" ++ name ++ "' failed") e).Tame := by
  refine Remark.tame_exception (fun heq => ?_) e
  have hchars := congrArg (fun s : String => s.toList.head?) heq
  simp [String.toList_append] at hchars

/-- What remarks and single plugins keep, plugins one after another keep. -/
theorem leads_runPlugins (setup : Setup) (s : Session)
    (hsay : ∀ w r, r.Tame → P w → P (w.say r))
    (hplugin : ∀ w p c, P w → w.Leads o (Plugin.run p g occasion.phase c) fun _ w' => P w')
    (plugins : List Plugin) (h : P w) :
    w.Leads o (s.runPlugins setup g occasion plugins) fun _ w' => P w' := by
  induction plugins generalizing w with
  | nil => exact World.leads_pure _ |>.2 h
  | cons p ps ih =>
    rw [runPlugins, World.leads_bind, World.leads_say, World.leads_bind]
    refine (hplugin _ p _ (hsay w _ (fun _ heq => by cases heq) h)).mono fun result w' h' => ?_
    rcases result with (_ | _) | _ | _
    · exact World.leads_pure _ |>.2 h'
    · exact World.leads_pure _ |>.2 h'
    · rw [World.leads_bind, tellResult, World.leads_say]
      exact ih (hsay w' _ (tame_failed p.name _) h')
    · rw [World.leads_bind, tellResult, World.leads_pure]
      exact ih h'

/-- A dispatch asks for the windows first, and then runs plugins. -/
theorem leads_dispatch (setup : Setup) (s : Session)
    (hsay : ∀ w r, r.Tame → P w → P (w.say r))
    (hcall : w.Leads o (Worker.call g .windowHandles) fun _ w' => P w')
    (hplugin : ∀ w p c, P w → w.Leads o (Plugin.run p g occasion.phase c) fun _ w' => P w')
    (h : P w) : w.Leads o (s.dispatch setup g occasion) fun _ w' => P w' := by
  have hskip (w) (h : P w) : w.Leads o skipPlugins fun _ w' => P w' := by
    rw [skipPlugins, World.leads_bind, World.leads_say, World.leads_pure]
    exact hsay w _ (fun _ heq => by cases heq) h
  unfold dispatch
  split
  · exact World.leads_pure _ |>.2 h
  rw [World.leads_bind]
  refine hcall.mono fun result w' h' => ?_
  rcases result with (_ | _) | _ | handles
  · exact hskip w' h'
  · exact World.leads_pure _ |>.2 h'
  · exact hskip w' h'
  · dsimp only
    split
    · exact leads_runPlugins setup s hsay hplugin _ h'
    · exact hskip w' h'

/-- Plugins have their occasion while the run has not been stopped. -/
theorem leads_fire {setup : Setup} {s : Session} {Q : Unit → World σ → Prop} :
    w.Leads o (s.fire setup occasion) Q ↔
      if w.isStopped then Q () w
      else (w.tell (.stage (.occasion occasion))).Leads o
        (s.dispatch setup (.untilStop none) occasion) fun _ => Q () := by
  rw [fire, World.leads_bind, World.leads_isStopped]
  split
  · exact World.leads_pure ()
  · rw [World.leads_bind, World.leads_tell, World.leads_bind]
    simp only [World.leads_pure]

/-- What is said where the plugins at the end of a test have taken too long. -/
def timeUpMessage (setup : Setup) : String :=
  "aftertest plugins did not finish within " ++
    toString (Duration.secs setup.watchdogTimeout) ++ " seconds."

/-- The plugins at the end of a test have their occasion in any case; where they take too long, a run
that has not been stopped before is stopped, and so it is said. -/
theorem leads_fireAfterTest {setup : Setup} {s : Session} {Q : Unit → World σ → Prop} :
    w.Leads o (s.fireAfterTest setup) Q ↔
      (w.tell (.stage (.occasion { phase := .afterTest }))).Leads o
        (s.dispatch setup (lastGuard w.isStopped (w.limit setup.watchdogTimeout))
          { phase := .afterTest }) fun ending w' =>
        match ending with
        | .finished => Q () w'
        | .timeUp =>
          Q () ((if w.isStopped then w' else w'.stop (.inside .timeLimit)).say
            (.error (timeUpMessage setup))) := by
  rw [fireAfterTest, World.leads_bind, World.leads_isStopped, World.leads_bind, World.leads_tell,
    World.leads_bind, World.leads_limit, World.leads_bind]
  refine iff_of_eq (congrArg (World.Leads o _ _) (funext fun ending => funext fun w' => ?_))
  cases ending with
  | finished => exact propext (World.leads_pure ())
  | timeUp =>
    rw [World.leads_bind, Worker.stopUnless]
    split
    · exact propext ((World.leads_pure ()).trans (World.leads_say _))
    · exact propext ((World.leads_stop _).trans (World.leads_say _))

end Session

/-- What holds of the world all the while an event is carried out. -/
structure Kept (o : Outside σ) (P : World σ → Prop) : Prop where
  say : ∀ {w} r, P w → P (w.say r)
  step : ∀ {w} s, P w → w.Leads o (Worker.guarded (.untilStop none) s) fun _ w' => P w'
  /-- Occasions come only while the run has not been stopped. -/
  occasion : ∀ {w} {occasion : Occasion}, w.isStopped = false → occasion.phase ≠ .afterTest →
    P w → P (w.tell (.stage (.occasion occasion)))
  plugin : ∀ {w} {phase : Option Phase} (p : Plugin) c, phase ≠ some .afterTest → P w →
    w.Leads o (p.run (.untilStop none) phase c) fun _ w' => P w'

namespace Kept

variable {setup : Setup} {s : Session}

theorem fire (hkept : Kept o P) {occasion : Occasion} (hphase : occasion.phase ≠ .afterTest)
    (h : P w) : w.Leads o (s.fire setup occasion) fun _ w' => P w' := by
  rw [Session.leads_fire]
  split
  · exact h
  · rename_i hstop
    have hoccasion := hkept.occasion (Bool.eq_false_iff.2 hstop) hphase h
    exact Session.leads_dispatch setup s (fun _ r _ => hkept.say r)
      (hkept.step (.act (.call .windowHandles)) hoccasion)
      (fun _ p c => hkept.plugin p c (mt Option.some.inj hphase)) hoccasion

theorem move (hkept : Kept o P) (m : Move) (h : P w) :
    Stretch.Leads o (m.play setup) s w fun _ _ w' => P w' := by
  cases m with
  | say r => simpa [Move.play] using hkept.say r h
  | step st => simpa [Move.play] using hkept.step st h
  | now => simpa [Move.play] using h
  | calendar => simpa [Move.play] using h
  | session => simpa [Move.play] using h
  | edit e => simpa [Move.play] using h
  | aroundClick side event element =>
    simp only [Move.play, Stretch.leads_fire]
    exact hkept.fire (by cases side <;> simp [Side.phase]) h
  | plugin p element args => simpa [Move.play] using hkept.plugin p _ (by simp) h

/-- What is kept while an act goes on, move by move. -/
theorem play (hkept : Kept o P) (a : Act α) (h : P w) :
    Stretch.Leads o (a.play setup) s w fun _ _ w' => P w' := by
  unfold Act.play
  generalize a.run = p
  induction p generalizing s w with
  | done r => exact Stretch.leads_pure _ |>.2 h
  | ask m next ih =>
    rw [Program.handle, Stretch.leads_bind]
    exact (hkept.move m h).mono fun x _ _ h' => ih x h'

theorem act (hkept : Kept o P) (a : Act α) (h : P w) :
    Stretch.Leads o (Passage.act setup a).run s w fun _ _ w' => P w' :=
  hkept.play a h

/-- What comes after an act that is kept may count on what the act keeps. -/
theorem act_bind {β : Type} (hkept : Kept o P) (a : Act α) (f : α → Passage β)
    (hnext : ∀ x s w, P w → Stretch.Leads o (f x).run s w fun _ _ w' => P w') (h : P w) :
    Stretch.Leads o (Passage.act setup a >>= f).run s w fun _ _ w' => P w' := by
  rw [Stretch.leads_run_bind]
  refine (hkept.act a h).mono fun r s' w' h' => ?_
  cases r with
  | ok x => exact hnext x s' w' h'
  | error e => exact h'

theorem plainly (hkept : Kept o P) (a : Act Unit) (h : P w) :
    Stretch.Leads o (Passage.plainly setup a).run s w fun _ _ w' => P w' :=
  hkept.act_bind a _ (fun _ _ _ h' => Stretch.leads_run_pure _ |>.2 h') h

theorem restore (hkept : Kept o P) (r : Restore) (h : P w) :
    Stretch.Leads o (Passage.restore setup r).run s w fun _ _ w' => P w' := by
  cases r with
  | nothing => exact Stretch.leads_run_pure _ |>.2 h
  | defaultContent => exact hkept.act _ h
  | window handle => exact hkept.act _ h

/-- Carrying out an event keeps it too; but two kinds of events also tell the watchdog to allow more
time. -/
theorem carryOut (hkept : Kept o P) {event : Event}
    (hextend : event.kind = .command .wait ∨ event.kind = .command .attach →
      ∀ w d, P w → P (w.extend d))
    (parent : Option Element) (h : P w) :
    Stretch.Leads o (Passage.carryOut setup event parent).run s w fun _ _ w' => P w' := by
  have hpure (opened : Opened) (s : Session) (w : World σ) (h : P w) :
      Stretch.Leads o (pure opened : Passage Opened).run s w fun _ _ w' => P w' :=
    Stretch.leads_run_pure _ |>.2 h
  unfold Passage.carryOut
  cases hkind : event.kind with
  | frame => exact hkept.act_bind _ _ (fun _ => hpure _) h
  | markup m => exact hkept.act_bind _ _ (fun _ => hpure _) h
  | control c => exact hkept.act_bind _ _ (fun _ => hpure _) h
  | command c =>
    cases c with
    | csv => exact hkept.act_bind _ _ (fun _ => hpure _) h
    | script => exact hkept.act_bind _ _ (fun _ => hpure _) h
    | wait =>
      refine hkept.act_bind _ _ (fun secs s' w' h' => ?_) h
      rw [Stretch.leads_run_bind, Stretch.leads_passage_extend]
      exact hkept.plainly _ (hextend (.inl hkind) w' _ h')
    | attach =>
      refine hkept.act_bind _ _ (fun q s' w' h' => ?_) h
      rw [Stretch.leads_run_bind, Stretch.leads_passage_extend]
      exact hkept.act_bind _ _ (fun _ => hpure _) (hextend (.inr hkind) w' _ h')
    | _ => exact hkept.plainly _ h

/-- An event is opened by being carried out, and then its result is told. -/
theorem openEvent (hkept : Kept o P) (hextend : ∀ w d, P w → P (w.extend d))
    (htold : ∀ w event result, P w → P (w.tell (.stage (.carriedOut event result))))
    (event : Event) (parent : Option Element) (h : P w) :
    Stretch.Leads o (Passage.openEvent setup event parent).run s w fun _ _ w' => P w' := by
  rw [Passage.openEvent, Stretch.leads_run_bind, Stretch.leads_run_lift]
  refine (hkept.carryOut (fun _ => hextend) parent h).mono fun result s' w' h' => ?_
  dsimp only
  rw [Stretch.leads_run_bind, Stretch.leads_passage_tell]
  exact Stretch.leads_pure result |>.2 (htold w' event result h')

end Kept
end PageScript
