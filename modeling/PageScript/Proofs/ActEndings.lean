import PageScript.Proofs.RunResults

/-!
# Acts come to an end

A worker is given up only where scripts include each other too deeply. Neither a plugin nor an act
can ask for that, so whatever an event does itself comes to an end: with whatever plugins, from
whatever session and world it starts, and whether the run has been stopped or not.
-/

namespace PageScript

variable {σ α β : Type} {o : Outside σ}

/-- A worker comes to an end wherever it starts. -/
def Worker.Finishes (o : Outside σ) (p : Worker α) : Prop :=
  ∀ w, ∃ a w', World.run o p w = some (a, w')

namespace Worker

theorem finishes_pure (a : α) : Finishes o (pure a : Worker α) :=
  fun w => ⟨a, w, rfl⟩

theorem Finishes.bind {p : Worker β} {f : β → Worker α} (hp : Finishes o p) (hf : ∀ b, Finishes o (f b)) :
    Finishes o (p >>= f) := by
  intro w
  obtain ⟨b, w₁, hb⟩ := hp w
  obtain ⟨a, w', ha⟩ := hf b w₁
  refine ⟨a, w', ?_⟩
  rw [World.run_bind, hb]
  exact ha

/-- Anything but to give up is answered. -/
theorem finishes_request {r : Request} (h : r ≠ .tooDeep) :
    Finishes o (Program.request r : Worker r.Answer) := by
  intro w
  cases r with
  | tooDeep => exact absurd rfl h
  | _ => exact ⟨_, _, rfl⟩

theorem finishes_say (r : Remark) : Finishes o (say r) :=
  finishes_request (r := .say r) nofun

theorem finishes_tell (s : Stage) : Finishes o (tell s) :=
  finishes_request (r := .tell s) nofun

theorem finishes_isStopped : Finishes o isStopped :=
  finishes_request (r := .isStopped) nofun

theorem finishes_stop (who : Insider) : Finishes o (stop who) :=
  finishes_request (r := .stop who) nofun

theorem finishes_step (g : Guard) (s : Step) : Finishes o (step g s) :=
  finishes_request (r := .step g s) nofun

theorem finishes_unlessStopped (g : Guard) {p : Worker (Except Cut α)} (hp : Finishes o p) :
    Finishes o (unlessStopped g p) := by
  refine finishes_isStopped.bind fun stopped => ?_
  split
  · exact finishes_pure _
  · exact hp

theorem finishes_guarded (g : Guard) (s : Step) : Finishes o (guarded g s) :=
  finishes_unlessStopped g (finishes_step g s)

/-- What a plugin may ask for is answered. -/
theorem finishes_under (g : Guard) (t : Task α) : Finishes o (Task.under g t) := by
  induction t with
  | done a => exact finishes_pure _
  | ask d next ih =>
    cases d with
    | step s =>
      rw [Task.under]
      refine (finishes_step g s).bind fun x => ?_
      cases x with
      | ok x => exact ih x
      | error cut => exact finishes_pure _
    | say r => exact (finishes_say r).bind fun _ => ih ()
    | stop => exact (finishes_stop .plugin).bind fun _ => ih ()

end Worker

open Worker

theorem Plugin.finishes_run (p : Plugin) (g : Guard) (phase : Option Phase) (c : PluginContext) :
    Finishes o (p.run g phase c) := by
  refine finishes_unlessStopped g ((finishes_tell _).bind fun _ =>
    (finishes_under g _).bind fun result => ?_)
  cases result with
  | ok _ => exact (finishes_tell _).bind fun _ => finishes_pure _
  | error _ => exact (finishes_tell _).bind fun _ => finishes_pure _

namespace Session

variable {setup : Setup} {s : Session}

theorem finishes_runPlugins (g : Guard) (occasion : Occasion) (ps : List Plugin) :
    Finishes o (s.runPlugins setup g occasion ps) := by
  induction ps with
  | nil => exact finishes_pure _
  | cons p ps ih =>
    refine (finishes_say _).bind fun _ => (p.finishes_run g _ _).bind fun result => ?_
    rcases result with (_ | _) | result
    · exact finishes_pure _
    · exact finishes_pure _
    · refine Finishes.bind ?_ fun _ => ih
      cases result with
      | ok _ => exact finishes_pure _
      | error e => exact finishes_say _

theorem finishes_dispatch (g : Guard) (occasion : Occasion) :
    Finishes o (s.dispatch setup g occasion) := by
  have hskip : Finishes o skipPlugins := (finishes_say _).bind fun _ => finishes_pure _
  unfold dispatch
  split
  · exact finishes_pure _
  · refine (finishes_guarded g _).bind fun answer => ?_
    split
    · exact finishes_pure _
    · split
      · exact finishes_runPlugins g occasion _
      · exact hskip
    · exact hskip

theorem finishes_fire (occasion : Occasion) : Finishes o (s.fire setup occasion) := by
  refine finishes_isStopped.bind fun stopped => ?_
  split
  · exact finishes_pure _
  · exact (finishes_tell _).bind fun _ => (finishes_dispatch _ occasion).bind fun _ => finishes_pure _

end Session

namespace Stretch

/-- A part of a run comes to an end wherever it starts. -/
def Finishes (o : Outside σ) (p : Stretch α) : Prop :=
  ∀ s w, Lands o p s w fun _ _ _ => True

theorem finishes_pure (a : α) : Finishes o (pure a : Stretch α) :=
  fun _ _ => lands_pure a |>.2 trivial

theorem Finishes.bind {p : Stretch β} {f : β → Stretch α} (hp : Finishes o p) (hf : ∀ b, Finishes o (f b)) :
    Finishes o (p >>= f) :=
  fun s w => lands_bind p f |>.2 ((hp s w).mono fun b s' w' _ => hf b s' w')

theorem finishes_ofWorker {p : Worker α} (hp : Worker.Finishes o p) : Finishes o (ofWorker p) := by
  intro s w
  obtain ⟨a, w', hrun⟩ := hp w
  exact lands_ofWorker hrun |>.2 trivial

/-- What every end is like, the end that there is is like. -/
theorem Finishes.lands {p : Stretch α} (hp : Finishes o p) {s : Session} {w : World σ}
    {Q : α → Session → World σ → Prop} (h : Leads o p s w Q) : Lands o p s w Q :=
  ((hp s w).and h).mono fun _ _ _ h => h.2

end Stretch

open Stretch

variable {setup : Setup}

theorem Move.finishes_play (m : Move) : Finishes o (m.play setup) := by
  cases m with
  | say r => exact finishes_ofWorker (Worker.finishes_say r)
  | step s => exact finishes_ofWorker (finishes_guarded _ s)
  | now => exact finishes_ofWorker (finishes_request (r := .now) nofun)
  | calendar => exact finishes_ofWorker (finishes_request (r := .calendar) nofun)
  | session => exact fun s w => ⟨s, s, w, rfl, trivial⟩
  | edit e => exact fun s w => ⟨(), s.edit e, w, rfl, trivial⟩
  | aroundClick side event element =>
    intro s w
    have hfires : Worker.Finishes o (s.fire setup
        { phase := side.phase, event := some event, element := some element }) :=
      s.finishes_fire _
    obtain ⟨a, w', hrun⟩ := hfires w
    exact lands_bind _ _ |>.2 ⟨s, s, w, rfl, lands_ofWorker hrun |>.2 trivial⟩
  | plugin p element args =>
    intro s w
    obtain ⟨a, w', hrun⟩ := p.finishes_run (o := o) (.untilStop none) none
      (s.pluginContext setup element args) w
    exact lands_bind _ _ |>.2 ⟨s, s, w, rfl, lands_ofWorker hrun |>.2 trivial⟩

/-- **Every act comes to an end.** -/
theorem Act.finishes_play (a : Act α) : Finishes o (a.play setup) := by
  unfold Act.play
  generalize a.run = p
  induction p with
  | done r => exact Stretch.finishes_pure r
  | ask m next ih => exact (m.finishes_play).bind ih

namespace Passage

theorem finishes_act (a : Act α) : Finishes o (Passage.act setup a).run :=
  a.finishes_play

theorem finishes_run_pure (a : α) : Finishes o (pure a : Passage α).run :=
  fun _ _ => lands_run_pure a |>.2 trivial

theorem finishes_run_bind {p : Passage β} {f : β → Passage α} (hp : Finishes o p.run)
    (hf : ∀ b, Finishes o (f b).run) : Finishes o (p >>= f).run := by
  intro s w
  refine lands_run_bind p f |>.2 ((hp s w).mono fun r s' w' _ => ?_)
  cases r with
  | ok b => exact hf b s' w'
  | error e => trivial

theorem finishes_extend (d : Duration) : Finishes o (extend d).run :=
  fun s w => ⟨.ok (), s, w.extend d, rfl, trivial⟩

/-- **What an event does itself comes to an end.** -/
theorem finishes_carryOut (event : Event) (parent : Option Element) :
    Finishes o (carryOut setup event parent).run := by
  have hplainly (a : Act Unit) : Finishes o (plainly setup a).run :=
    finishes_run_bind (finishes_act a) fun _ => finishes_run_pure _
  unfold carryOut
  cases event.kind with
  | command c =>
    cases c with
    | attach =>
      exact finishes_run_bind (finishes_act _) fun _ => finishes_run_bind (finishes_extend _) fun _ =>
        finishes_run_bind (finishes_act _) fun _ => finishes_run_pure _
    | wait =>
      exact finishes_run_bind (finishes_act _) fun _ => finishes_run_bind (finishes_extend _) fun _ =>
        hplainly _
    | csv | script => exact finishes_run_bind (finishes_act _) fun _ => finishes_run_pure _
    | _ => exact hplainly _
  | frame | markup _ | control _ =>
    exact finishes_run_bind (finishes_act _) fun _ => finishes_run_pure _

end Passage
end PageScript
