import PageScript.Proofs.AllowedMoves
import PageScript.Proofs.Stays

/-!
# Runs without plugins

Where no plugins are active, a run asks for little: a step is given up only where the run is stopped,
nothing has a time limit, and the run does not stop itself. So it is on every path of a part of a run,
whatever is answered on the way, and no plugin becomes active on any of them if the settings name
none.
-/

namespace PageScript

variable {α β ε : Type}

/-- A request of a run without plugins. -/
def Request.Plain : Request → Prop
  | .step g _ => g = .untilStop none
  | .stop _ | .limit _ | .tooDeep => False
  | .say _ | .tell _ | .isStopped | .pulse | .extend _ | .now | .calendar => True

/-- Nothing else is asked for on any path, and every end of these is as said. -/
inductive Worker.Plain (Q : α → Prop) : Worker α → Prop where
  | done {a : α} : Q a → Plain Q (.done a)
  | ask {r : Request} {next : r.Answer → Worker α} : r.Plain → (∀ x, Plain Q (next x)) →
      Plain Q (.ask r next)

namespace Worker

variable {Q : α → Prop} {R : β → Prop}

theorem Plain.bind {p : Worker α} {f : α → Worker β} (h : Plain Q p)
    (hf : ∀ a, Q a → Plain R (f a)) : Plain R (p >>= f) := by
  induction h with
  | done ha => exact hf _ ha
  | ask hr _ ih => exact .ask hr ih

theorem plain_request {r : Request} (h : r.Plain) :
    Plain (fun _ => True) (Program.request r : Worker r.Answer) :=
  .ask h fun _ => .done trivial

theorem plain_tell (s : Stage) : Plain (fun _ => True) (tell s) :=
  plain_request (r := .tell s) trivial

theorem plain_guarded (s : Step) : Plain (fun _ => True) (guarded (.untilStop none) s) := by
  refine (plain_request (r := .isStopped) trivial).bind fun stopped _ => ?_
  split
  · exact .done trivial
  · exact plain_request (r := .step (.untilStop none) s) rfl

end Worker

namespace Stretch

/-- Where no plugins are active, nothing else is asked for, and none are made active. -/
def Plain (p : Stretch α) : Prop :=
  ∀ s, s.registry = [] → Worker.Plain (fun x => x.2.registry = []) (p s)

theorem plain_pure (a : α) : Plain (pure a) := fun _ hs => .done hs

theorem Plain.bind {p : Stretch α} {f : α → Stretch β} (h : Plain p) (hf : ∀ a, Plain (f a)) :
    Plain (p >>= f) :=
  fun s hs => (h s hs).bind fun x hx => hf x.1 x.2 hx

theorem plain_ofWorker {w : Worker α} (h : Worker.Plain (fun _ => True) w) : Plain (ofWorker w) :=
  fun _ hs => h.bind fun _ _ => .done hs

/-- Without plugins an occasion is only told of. -/
theorem plain_fire (setup : Setup) (o : Occasion) : Plain (fire setup o) := by
  intro s hs
  have hnone : s.registry.isEmpty = true := by rw [hs]; rfl
  have hfire : Worker.Plain (fun _ => True) (s.fire setup o) := by
    refine (Worker.plain_request (r := .isStopped) trivial).bind fun stopped _ => ?_
    split
    · exact .done trivial
    · refine (Worker.plain_tell _).bind fun _ _ => ?_
      rw [Session.dispatch, if_pos hnone]
      exact .done trivial
  exact hfire.bind fun _ _ => .done hs

/-! ## Parts that may end early -/

theorem Plain.run_bind {p : ExceptT ε Stretch α} {f : α → ExceptT ε Stretch β} (h : Plain p.run)
    (hf : ∀ a, Plain (f a).run) : Plain (p >>= f).run := by
  rw [ExceptT.run_bind]
  refine h.bind fun r => ?_
  cases r with
  | ok a => exact hf a
  | error e => exact plain_pure _

theorem plain_run_lift {p : Stretch α} (h : Plain p) :
    Plain (ExceptT.lift p : ExceptT ε Stretch α).run :=
  h.bind fun _ => plain_pure _

end Stretch

/-! ## Acts -/

namespace Act

open Stretch

variable {setup : Setup} {event : Event} {kind : Kind}

theorem plain_pure (a : α) : Plain (Act.play setup (pure a)) := Stretch.plain_pure (Except.ok a)

theorem plain_fail (m : Mishap) : Plain (Act.play setup (fail m : Act α)) :=
  Stretch.plain_pure (Except.error m)

theorem plain_bind {a : Act β} {f : β → Act α} (ha : Plain (a.play setup))
    (hf : ∀ b, Plain ((f b).play setup)) : Plain (Act.play setup (a >>= f)) := by
  rw [Act.play, ExceptT.run_bind, Program.handle_bind]
  refine ha.bind fun r => ?_
  cases r with
  | ok b => exact hf b
  | error m => exact Stretch.plain_pure _

theorem plain_move (hplugins : setup.plugins = []) {m : Move} (hallowed : m.Allowed setup kind) :
    Plain (Act.play setup (move m)) := by
  have hcatalog {r : Registration} (hmem : r ∈ Configured.catalog setup.plugins) : False := by
    rw [hplugins] at hmem
    cases hmem
  have hmove : Plain (m.play setup) := by
    cases m with
    | say r => exact plain_ofWorker (Worker.plain_request (r := .say r) trivial)
    | step s => exact plain_ofWorker (Worker.plain_guarded s)
    | now => exact plain_ofWorker (Worker.plain_request (r := .now) trivial)
    | calendar => exact plain_ofWorker (Worker.plain_request (r := .calendar) trivial)
    | session => exact fun s hs => .done hs
    | edit e =>
      cases e with
      | activate r => exact (hcatalog hallowed.2).elim
      | _ => exact fun s hs => .done hs
    | aroundClick side event element => exact plain_fire setup _
    | plugin p element args =>
      obtain ⟨-, r, hmem, -⟩ := hallowed
      exact (hcatalog hmem).elim
  exact hmove.bind fun x => Stretch.plain_pure (Except.ok x)

/-- **Without plugins, whatever events do is plain.** -/
theorem Composed.plain (hplugins : setup.plugins = []) {a : Act α}
    (h : a.Composed setup event kind) : Plain (a.play setup) := by
  have hspreads : Spreads setup event kind fun a => Plain (a.play setup) :=
    .of_moves plain_pure plain_fail plain_bind (plain_move hplugins)
  exact hspreads.composed h

end Act

/-! ## Events -/

namespace Passage

open Stretch

variable {setup : Setup} {event : Event} {kind : Kind} (hplugins : setup.plugins = [])

include hplugins

theorem Composed.plain {p : Passage α} (hp : p.Composed setup event kind) : Plain p.run := by
  induction hp with
  | pure a => exact plain_pure _
  | act ha => exact ha.plain hplugins
  | extend d _ =>
    exact plain_run_lift (plain_ofWorker (Worker.plain_request (r := .extend d) trivial))
  | bind _ _ ihp ihf => exact ihp.run_bind ihf

theorem plain_openEvent (event : Event) (parent : Option Element) :
    Plain (openEvent setup event parent).run :=
  Plain.run_bind (plain_run_lift ((composed_carryOut event parent).plain hplugins)) fun result =>
    Plain.run_bind (plain_run_lift (plain_ofWorker (Worker.plain_tell _))) fun _ =>
      plain_pure result

theorem plain_restore (event : Event) (r : Restore) : Plain (restore setup r).run :=
  (composed_restore event r).plain hplugins

end Passage

namespace Journey

open Stretch

theorem plain_tell (s : Stage) : Plain (tell s).run :=
  plain_run_lift (plain_ofWorker (Worker.plain_tell s))

theorem plain_say (r : Remark) : Plain (say r).run :=
  plain_run_lift (plain_ofWorker (Worker.plain_request (r := .say r) trivial))

theorem plain_report (event : Event) (failure : Failure) : Plain (report event failure).run := by
  refine (plain_tell _).run_bind fun _ => ?_
  rcases failure with (_ | _ | _ | _) | _
  · exact plain_say _
  · dsimp only
    split <;> exact plain_say _
  · exact (plain_say _).run_bind fun _ => plain_pure _
  · exact plain_say _
  · exact plain_pure _

variable {setup : Setup}

theorem plain_settle (hplugins : setup.plugins = []) (event : Event)
    (result : Except Mishap Opened) : Plain (settle setup event result).run := by
  cases result with
  | error mishap => exact plain_report event _
  | ok opened =>
    refine (plain_run_lift (Passage.plain_restore hplugins event opened.restore)).run_bind fun r => ?_
    cases r with
    | error mishap => exact plain_report event _
    | ok _ => exact plain_pure _

theorem plain_finish (event : Event) (element : Option Element) :
    Plain (finish setup event element).run :=
  (plain_run_lift (plain_ofWorker (Worker.plain_request (r := .pulse) trivial))).run_bind fun _ =>
    (plain_tell _).run_bind fun _ => plain_run_lift (plain_fire setup _)

/-- Before its events a run finds out which window is in use. -/
theorem plain_begin :
    Plain (noteWindow >>= fun _ => Stretch.fire setup { phase := .beforeTest }) := by
  have hnote : Plain noteWindow := by
    refine (plain_ofWorker (Worker.plain_guarded (.act (.call .currentWindow)))).bind fun answer => ?_
    split
    · exact fun s hs => .done hs
    · exact plain_pure _
  exact hnote.bind fun _ => plain_fire setup _

end Journey

theorem Setup.registry_session {setup : Setup} (hplugins : setup.plugins = [])
    (calendar : Calendar) : (setup.session calendar).registry = [] := by
  rw [session, hplugins]
  rfl

/-- Without plugins nothing is left to do at the end of the test. -/
theorem Session.run_fireAfterTest {σ : Type} {o : Outside σ} {setup : Setup} {s : Session}
    (hregistry : s.registry = []) (w : World σ) : World.run o (s.fireAfterTest setup) w =
      some ((), w.tell (.stage (.occasion { phase := .afterTest }))) := by
  have hnone : s.registry.isEmpty = true := by rw [hregistry]; rfl
  rw [fireAfterTest]
  simp only [dispatch, if_pos hnone]
  rfl

theorem Course.after_eq {σ : Type} {o : Outside σ} {setup : Setup} {calendar : Calendar}
    {stopAt : Option Duration} {events : List Event} {outside : σ} {ended : Ended σ}
    (course : Course setup o calendar stopAt events outside ended)
    (hregistry : course.session.registry = []) :
    course.after = course.before.tell (.stage (.occasion { phase := .afterTest })) := by
  have hplugins := course.run_plugins.symm.trans
    (Session.run_fireAfterTest hregistry course.before)
  exact (Prod.mk.inj (Option.some.inj hplugins)).2

end PageScript
