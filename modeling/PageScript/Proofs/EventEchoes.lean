import PageScript.Proofs.DryRuns
import PageScript.Proofs.ActCalls
import PageScript.Proofs.RestatedEvents

/-!
# Runs of events that say the same

A program echoes another one if it asks for the same in the same order and comes to the same result,
except that the stages it tells may show events in place of others that say the same. What every
act does for an event it does for the echo of the event, and so does the traversal: through rows,
through included scripts, which are the same ones, and through the children.

A world answers both programs alike, since it keeps what it is told and never looks at it. So the
two runs go through the same calls, the same waits and the same reports, see the same plugins run,
and come to the same session and the same outcome, whatever is outside.
-/

namespace PageScript

variable {α β ε σ : Type}

/-! ## What is told -/

/-- Two stages that are the same, but that one shows an event that echoes that of the other. -/
inductive Stage.Echoes : Stage → Stage → Prop where
  | started {e e' : Event} (h : e.Echoes e') (parent : Option Element) :
    Stage.Echoes (.started e parent) (.started e' parent)
  | carriedOut {e e' : Event} (h : e.Echoes e') (result : Except Mishap Opened) :
    Stage.Echoes (.carriedOut e result) (.carriedOut e' result)
  | failed {e e' : Event} (h : e.Echoes e') (failure : Failure) :
    Stage.Echoes (.failed e failure) (.failed e' failure)
  | finished {e e' : Event} (h : e.Echoes e') (element : Option Element) :
    Stage.Echoes (.finished e element) (.finished e' element)
  | occasion {e e' : Event} (h : e.Echoes e') (phase : Phase) (element : Option Element) :
    Stage.Echoes (.occasion { phase, event := some e, element })
      (.occasion { phase, event := some e', element })

/-- Such stages show as the same report. -/
theorem Stage.Echoes.report?_eq {s s' : Stage} (h : s.Echoes s') :
    (Notice.stage s').report? = (Notice.stage s).report? := by
  cases h with
  | started h parent => rw [Notice.report?, Notice.report?, h.here.name_eq]
  | finished h element => rw [Notice.report?, Notice.report?, h.here.name_eq]
  | _ => rfl

/-- Two workers ask for the same, but for echoes in what they tell, and come to the same result. -/
inductive Worker.Echoes : Worker α → Worker α → Prop where
  | done (a : α) : Worker.Echoes (.done a) (.done a)
  | ask (r : Request) {next next' : r.Answer → Worker α} :
    (∀ x, Worker.Echoes (next x) (next' x)) → Worker.Echoes (.ask r next) (.ask r next')
  | tell {s s' : Stage} {next next' : Unit → Worker α} : s.Echoes s' →
    (∀ x, Worker.Echoes (next x) (next' x)) →
    Worker.Echoes (.ask (.tell s) next) (.ask (.tell s') next')

namespace Worker

theorem Echoes.refl (p : Worker α) : Echoes p p := by
  induction p with
  | done a => exact .done a
  | ask r _ ih => exact .ask r ih

theorem Echoes.bind {p p' : Worker α} {f f' : α → Worker β} (h : Echoes p p')
    (hf : ∀ a, Echoes (f a) (f' a)) : Echoes (p >>= f) (p' >>= f') := by
  -- by how the first two ask, until both are done with the same result
  induction h with
  | done a => exact hf a
  | ask r _ ih => exact .ask r ih
  | tell hs _ ih => exact .tell hs ih

theorem echoes_tell {s s' : Stage} (h : s.Echoes s') : Echoes (tell s) (tell s') :=
  .tell h fun _ => .refl _

end Worker

/-! ## Stretches -/

/-- Two parts of a run of which one echoes the other, whatever the run remembers; in the end the two
remember the same. -/
def Stretch.Echoes (p p' : Stretch α) : Prop :=
  ∀ s, Worker.Echoes (p s) (p' s)

namespace Stretch

theorem Echoes.refl (p : Stretch α) : p.Echoes p := fun _ => .refl _

theorem Echoes.bind {p p' : Stretch α} {f f' : α → Stretch β} (h : Echoes p p')
    (hf : ∀ a, Echoes (f a) (f' a)) : Echoes (p >>= f) (p' >>= f') :=
  fun s => (h s).bind fun x => hf x.1 x.2

theorem Echoes.map {p p' : Stretch α} (h : Echoes p p') (f : α → β) :
    Echoes (f <$> p) (f <$> p') := by
  rw [map_eq_pure_bind, map_eq_pure_bind]
  exact h.bind fun _ => .refl _

theorem echoes_ofWorker {w w' : Worker α} (h : Worker.Echoes w w') :
    Echoes (ofWorker w) (ofWorker w') :=
  fun _ => h.bind fun _ => .refl _

theorem Echoes.run_bind {p p' : ExceptT ε Stretch α} {f f' : α → ExceptT ε Stretch β}
    (h : Echoes p.run p'.run) (hf : ∀ a, Echoes (f a).run (f' a).run) :
    Echoes (p >>= f).run (p' >>= f').run := by
  rw [ExceptT.run_bind, ExceptT.run_bind]
  refine h.bind fun r => ?_
  cases r with
  | ok a => exact hf a
  | error e => exact .refl _

theorem Echoes.run_lift {p p' : Stretch α} (h : Echoes p p') :
    Echoes (ExceptT.lift p : ExceptT ε Stretch α).run (ExceptT.lift p').run :=
  h.map Except.ok

end Stretch

/-- The plugins of a list run alike at occasions that differ in their events. -/
theorem Session.runPlugins_eq (setup : Setup) (s : Session) (g : Guard) {o o' : Occasion}
    (hphase : o'.phase = o.phase) (helement : o'.element = o.element) (plugins : List Plugin) :
    s.runPlugins setup g o' plugins = s.runPlugins setup g o plugins := by
  induction plugins with
  | nil => rfl
  | cons p ps ih => rw [runPlugins, runPlugins, hphase, helement, ih]

/-- An occasion for plugins is told with its event; otherwise the event is known by its name. -/
theorem Stretch.echoes_fire {setup : Setup} {event event' : Event} (h : event.Echoes event')
    (phase : Phase) (element : Option Element) :
    Echoes (fire setup { phase, event := some event, element })
      (fire setup { phase, event := some event', element }) := by
  intro s
  have htag : ({ phase, event := some event', element } : Occasion).tag =
      ({ phase, event := some event, element } : Occasion).tag := congrArg some h.here.name_eq
  have hfire : Worker.Echoes (s.fire setup { phase, event := some event, element })
      (s.fire setup { phase, event := some event', element }) := by
    refine (Worker.Echoes.refl _).bind fun stopped => ?_
    split
    · exact .refl _
    · refine (Worker.echoes_tell (.occasion h phase element)).bind fun _ => ?_
      have hplugins :
          s.runPlugins setup (.untilStop none) { phase, event := some event', element } =
            s.runPlugins setup (.untilStop none) { phase, event := some event, element } :=
        funext (s.runPlugins_eq setup _ rfl rfl)
      -- plugins are picked by the name of the event, and are not shown the event itself
      have hdispatch : s.dispatch setup (.untilStop none) { phase, event := some event', element } =
          s.dispatch setup (.untilStop none) { phase, event := some event, element } := by
        simp only [Session.dispatch, hplugins, htag]
      rw [hdispatch]
      exact .refl _
  exact hfire.bind fun _ => .refl _

/-! ## Acts that click -/

/-- Two acts of which one echoes the other. -/
def Act.Echoes (setup : Setup) (a a' : Act α) : Prop :=
  Stretch.Echoes (a.play setup) (a'.play setup)

namespace Act

variable {setup : Setup} {event event' : Event}

theorem Echoes.refl (a : Act α) : Echoes setup a a := Stretch.Echoes.refl _

theorem Echoes.bind {a a' : Act α} {f f' : α → Act β} (h : Echoes setup a a')
    (hf : ∀ b, Echoes setup (f b) (f' b)) : Echoes setup (a >>= f) (a' >>= f') := by
  rw [Echoes, Act.play, Act.play, ExceptT.run_bind, ExceptT.run_bind, Program.handle_bind,
    Program.handle_bind]
  refine Stretch.Echoes.bind h fun r => ?_
  cases r with
  | ok b => exact hf b
  | error e => exact Stretch.Echoes.refl _

/-- What comes after the same act. -/
theorem Echoes.then (a : Act α) {f f' : α → Act β} (hf : ∀ b, Echoes setup (f b) (f' b)) :
    Echoes setup (a >>= f) (a >>= f') :=
  (Echoes.refl a).bind hf

variable (h : event.Echoes event') (element : Element)

include h

theorem echoes_click : Echoes setup (click event element) (click event' element) := by
  have haround (side : Side) : Echoes setup (Act.move (.aroundClick side event element))
      (Act.move (.aroundClick side event' element)) :=
    Stretch.Echoes.bind (Stretch.echoes_fire h side.phase (some element)) fun _ => .refl _
  unfold click
  rw [h.here.name_eq]
  exact (haround .before).bind fun _ => .then _ fun _ => .then _ fun _ => haround .after

theorem echoes_setState (wanted : Bool) :
    Echoes setup (setState event element wanted) (setState event' element wanted) := by
  unfold setState
  rw [h.here.kind_eq, h.here.name_eq]
  split
  · exact .refl _
  · refine .then _ fun actual => ?_
    split
    · exact .refl _
    · exact .then _ fun _ => echoes_click h element

theorem echoes_set : Echoes setup (set setup event element) (set setup event' element) := by
  unfold set
  rw [h.here.get?_eq, h.here.kind_eq]
  split
  · exact echoes_setState h element _
  · exact .refl _
  · exact .refl _

theorem echoes_maybeClick :
    Echoes setup (maybeClick event element) (maybeClick event' element) := by
  unfold maybeClick
  rw [h.here.flag?_eq]
  split
  · exact echoes_click h element
  · exact .refl _

theorem echoes_actOn : Echoes setup (actOn setup event element) (actOn setup event' element) := by
  unfold actOn
  rw [h.here.keep_eq, h.here.checkDisabled_eq, h.here.clear_eq, h.here.selectValue_eq,
    h.here.append_eq, h.here.checkContent_eq, h.here.readContent_eq, h.here.firePageEvent_eq,
    h.here.answerAlert_eq]
  exact .then _ fun _ => .then _ fun _ => .then _ fun _ => (echoes_set h element).bind fun _ =>
    .then _ fun _ => .then _ fun _ => .then _ fun _ => .then _ fun _ => .then _ fun _ =>
    (echoes_maybeClick h element).bind fun _ => .refl _

omit element in
theorem echoes_element (parent : Option Element) :
    Echoes setup (Act.element setup event parent) (Act.element setup event' parent) := by
  unfold Act.element
  rw [h.here.locate_eq]
  exact .then _ fun element => (echoes_actOn h element).bind fun _ => .refl _

end Act

/-! ## Whole events -/

namespace Passage

variable {setup : Setup} {event event' : Event}

/-- **Whatever an event does, every echo of it does as well**, and it leaves the same. -/
theorem echoes_carryOut (h : event.Echoes event') (parent : Option Element) :
    Stretch.Echoes (carryOut setup event parent).run (carryOut setup event' parent).run := by
  have hfound : Stretch.Echoes (act setup (Act.element setup event parent)).run
      (act setup (Act.element setup event' parent)).run := Act.echoes_element h parent
  have helement : Stretch.Echoes
      (act setup (Act.element setup event parent) >>= fun found =>
        (return { element := some found } : Passage Opened)).run
      (act setup (Act.element setup event' parent) >>= fun found =>
        (return { element := some found } : Passage Opened)).run :=
    hfound.run_bind fun _ => .refl _
  have hattach : attach setup event' = attach setup event := by
    simp only [attach, h.here.ofEvent_eq]
  have hwait : wait setup event' = wait setup event := by
    simp only [wait, h.here.announceWait_eq]
  rw [carryOut, carryOut, h.here.kind_eq]
  -- what does not click is the same act for both events
  simp only [h.here.alert_eq, hattach, h.here.browser_eq, h.here.csv_eq, h.here.delete_eq,
    h.here.dragAndDrop_eq, h.here.execute_eq, h.here.callPlugin_eq, h.here.javascript_eq,
    h.here.loadPlugin_eq, h.here.puts_eq, h.here.saveHtml_eq, h.here.screenshot_eq,
    h.here.script_eq, h.here.var_eq, hwait, h.here.whitelist_eq, h.here.frame_eq]
  cases event.kind with
  | markup m => exact helement
  | control c => exact helement
  | frame => exact .refl _
  | command c => cases c <;> exact .refl _

theorem echoes_openEvent (h : event.Echoes event') (parent : Option Element) :
    Stretch.Echoes (openEvent setup event parent).run (openEvent setup event' parent).run := by
  refine ((echoes_carryOut h parent).run_lift (ε := Mishap)).run_bind fun result => ?_
  have htell : Stretch.Echoes (Stretch.ofWorker (Worker.tell (.carriedOut event result)))
      (Stretch.ofWorker (Worker.tell (.carriedOut event' result))) :=
    Stretch.echoes_ofWorker (Worker.echoes_tell (.carriedOut h result))
  exact (htell.run_lift (ε := Mishap)).run_bind fun _ => .refl _

end Passage

namespace Detour

variable {setup : Setup} {event event' : Event} {inside inside' : Journey Unit}

theorem echoes_forRows (h : Stretch.Echoes inside.run inside'.run) (rows : List Row) :
    Stretch.Echoes (forRows inside rows).run (forRows inside' rows).run := by
  induction rows with
  | nil => exact .refl _
  | cons cells rows ih =>
    have hwithin : Stretch.Echoes (within inside).run (within inside').run := h.run_lift
    refine (Stretch.Echoes.refl _).run_bind fun stopped => ?_
    split
    · exact .refl _
    · exact (Stretch.Echoes.refl _).run_bind fun _ => hwithin.run_bind fun _ =>
        (Stretch.Echoes.refl _).run_bind fun _ => (Stretch.Echoes.refl _).run_bind fun _ => ih

theorem echoes_opening (h : event.Echoes event')
    (follow : List Event → Option Element → Journey Unit)
    (hinside : Stretch.Echoes inside.run inside'.run) (parent : Option Element) :
    Stretch.Echoes (opening setup follow inside event parent).run
      (opening setup follow inside' event' parent).run := by
  have hopened : Stretch.Echoes (ofPassage (Passage.openEvent setup event parent)).run
      (ofPassage (Passage.openEvent setup event' parent)).run :=
    (Passage.echoes_openEvent h parent).map _
  refine hopened.run_bind fun opened => ?_
  have hinner : Stretch.Echoes (followInner follow inside parent opened.inner).run
      (followInner follow inside' parent opened.inner).run := by
    cases opened.inner with
    | rows rows => exact echoes_forRows hinside rows
    | nothing => exact .refl _
    | events _ => exact .refl _
  exact hinner.run_bind fun _ => .refl _

end Detour

/-! ## The traversal -/

namespace Journey

variable {setup : Setup} {event event' : Event}
  {follow : List Event → Option Element → Journey Unit}
  {inside inside' : Journey Unit} {below below' : Option Element → Journey Unit}

theorem echoes_tell {s s' : Stage} (h : s.Echoes s') :
    Stretch.Echoes (tell s).run (tell s').run :=
  (Stretch.echoes_ofWorker (Worker.echoes_tell h)).run_lift

theorem echoes_report (h : event.Echoes event') (failure : Failure) :
    Stretch.Echoes (report event failure).run (report event' failure).run := by
  refine (echoes_tell (.failed h failure)).run_bind fun _ => ?_
  rw [h.here.name_eq, h.here.required_eq]
  exact .refl _

theorem echoes_leave (h : event.Echoes event') (r : Restore) :
    Stretch.Echoes (leave setup event r).run (leave setup event' r).run := by
  refine (Stretch.Echoes.refl _).run_bind fun result => ?_
  cases result with
  | ok _ => exact .refl _
  | error mishap => exact echoes_report h _

theorem echoes_descend (h : event.Echoes event')
    (hbelow : ∀ element, Stretch.Echoes (below element).run (below' element).run)
    (result : Except Failure Opened) :
    Stretch.Echoes (descend setup below event result).run
      (descend setup below' event' result).run := by
  cases result with
  | error failure => exact (echoes_report h failure).run_bind fun _ => .refl _
  | ok opened =>
    have hleave : Stretch.Echoes
        (leave setup event opened.restore >>= fun _ => pure opened.element).run
        (leave setup event' opened.restore >>= fun _ => pure opened.element).run :=
      (echoes_leave h opened.restore).run_bind fun _ => .refl _
    unfold descend
    dsimp only
    rw [h.descends_eq]
    split
    · exact (hbelow opened.element).run_bind fun _ => hleave
    · exact hleave

theorem echoes_finish (h : event.Echoes event') (element : Option Element) :
    Stretch.Echoes (finish setup event element).run (finish setup event' element).run :=
  (Stretch.Echoes.refl _).run_bind fun _ => (echoes_tell (.finished h element)).run_bind fun _ =>
    (Stretch.echoes_fire h .afterEvent element).run_lift

theorem echoes_runEvent (h : event.Echoes event')
    (hinside : Stretch.Echoes inside.run inside'.run)
    (hbelow : ∀ element, Stretch.Echoes (below element).run (below' element).run)
    (parent : Option Element) :
    Stretch.Echoes (runEvent setup follow inside below event parent).run
      (runEvent setup follow inside' below' event' parent).run := by
  have hopening : Stretch.Echoes
      (attempt (Detour.opening setup follow inside event parent)).run
      (attempt (Detour.opening setup follow inside' event' parent)).run :=
    (Detour.echoes_opening h follow hinside parent).run_lift
  exact (echoes_tell (.started h parent)).run_bind fun _ =>
    (Stretch.Echoes.refl _).run_bind fun _ => hopening.run_bind fun result =>
      (echoes_descend h hbelow result).run_bind fun element => echoes_finish h element

mutual

theorem echoes_visitOne {event event' : Event} (h : event.Echoes event')
    (parent : Option Element) :
    Stretch.Echoes (visitOne setup follow event parent).run
      (visitOne setup follow event' parent).run :=
  match event, event', h with
  | ⟨_, _, _, _, _, _, children⟩, ⟨_, _, _, _, _, _, children'⟩, h => by
    rw [visitOne, visitOne]
    -- the children are gone through with two parents: the event's own, and what it has found
    exact echoes_runEvent h (echoes_visitAll h.children parent) (echoes_visitAll h.children) parent

theorem echoes_visitAll {events events' : List Event} (h : Event.EchoAll events events')
    (parent : Option Element) :
    Stretch.Echoes (visitAll setup follow events parent).run
      (visitAll setup follow events' parent).run :=
  match events, events', h with
  | [], [], _ => .refl _
  | event :: events, event' :: events', .cons head tail => by
    rw [visitAll, visitAll]
    refine (Stretch.Echoes.refl _).run_bind fun stopped => ?_
    split
    · exact .refl _
    · exact (echoes_visitOne head parent).run_bind fun _ => echoes_visitAll tail parent

end

theorem echoes_visit {events events' : List Event} (h : Event.EchoAll events events')
    (depth : Nat) (parent : Option Element) :
    Stretch.Echoes (visit setup depth events parent).run
      (visit setup depth events' parent).run := by
  cases depth with
  | zero => exact .refl _
  | succ depth => exact echoes_visitAll h parent

theorem echoes_test {events events' : List Event} (h : Event.EchoAll events events') :
    Stretch.Echoes (test setup events) (test setup events') := by
  have hmain : Stretch.Echoes (main setup events) (main setup events') :=
    (Stretch.Echoes.refl _).bind fun _ => (Stretch.Echoes.refl _).bind fun _ =>
      echoes_visit h setup.nesting none
  exact hmain.bind fun _ => .refl _

end Journey

/-- **The worker of a run echoes that of every run whose events say the same.** -/
theorem Setup.echoes_worker (setup : Setup) {events events' : List Event}
    (h : Event.EchoAll events events') (session : Session) :
    Worker.Echoes (setup.worker events session) (setup.worker events' session) := by
  have hopening : setup.opening events' = setup.opening events := by
    rw [opening, opening, h.length_eq]
  rw [worker, worker, hopening]
  exact (Worker.Echoes.refl _).bind fun _ => (Worker.Echoes.refl _).bind fun _ =>
    (Journey.echoes_test h session).bind fun _ => .refl _

/-! ## Worlds -/

/-- The same has happened, but that a stage may show the echo of an event. -/
inductive Happening.Echoes : Happening → Happening → Prop where
  | refl (h : Happening) : Happening.Echoes h h
  | stage {s s' : Stage} (h : s.Echoes s') : Happening.Echoes (.stage s) (.stage s')

/-- Two worlds that are the same, but for echoes in what has happened. -/
structure World.Echoes (w w' : World σ) : Prop where
  rest : w' = { w with history := w'.history }
  history : List.Forall₂ Happening.Echoes w.history w'.history

namespace World
namespace Echoes

variable {o : Outside σ} {w w' : World σ}

theorem refl (w : World σ) : w.Echoes w :=
  ⟨rfl, List.forall₂_same.2 fun h _ => .refl h⟩

theorem bare_eq (h : w.Echoes w') : w'.bare = w.bare := by rw [h.rest]; rfl

theorem outside_eq (h : w.Echoes w') : w'.outside = w.outside := by rw [h.rest]

theorem happen (h : w.Echoes w') {x x' : Happening} (hx : x.Echoes x') :
    (w.happen x).Echoes (w'.happen x') :=
  ⟨by rw [World.happen, World.happen, h.rest], .cons hx h.history⟩

theorem withOutside (h : w.Echoes w') (s : σ) : (w.withOutside s).Echoes (w'.withOutside s) :=
  ⟨by rw [World.withOutside, World.withOutside, h.rest], h.history⟩

/-- Two answers that are the same, in worlds that are the same but for echoes. -/
def Both (x x' : α × World σ) : Prop :=
  x'.1 = x.1 ∧ x.2.Echoes x'.2

/-- What a bare world lives through is the same on top of either past. -/
theorem answers {f : {τ : Type} → World τ → α × World τ}
    (hf : ∀ {τ : Type} (u : World Unit) (s : τ) (past : List Happening),
      f (u.atop s past) = ((f u).1, (f u).2.atop s past)) (h : w.Echoes w') :
    Both (f w) (f w') := by
  have hw : f w = ((f w.bare).1, (f w.bare).2.atop w.outside w.history) :=
    hf w.bare w.outside w.history
  have hw' : f w' = ((f w.bare).1, (f w.bare).2.atop w.outside w'.history) := by
    rw [← h.bare_eq, ← h.outside_eq]
    exact hf w'.bare w'.outside w'.history
  rw [hw, hw']
  exact ⟨rfl, rfl, List.rel_append (List.forall₂_same.2 fun h _ => .refl h) h.history⟩

theorem map {f : {τ : Type} → World τ → World τ}
    (hf : ∀ {τ : Type} (u : World Unit) (s : τ) (past : List Happening),
      f (u.atop s past) = (f u).atop s past) (h : w.Echoes w') : (f w).Echoes (f w') :=
  (h.answers (f := fun w => ((), f w)) fun u s past => congrArg (Prod.mk ()) (hf u s past)).2

/-- An action takes the same course in both worlds. -/
theorem act (h : w.Echoes w') (g : Guard) (a : Action) : Both (w.act o g a) (w'.act o g a) := by
  have hnoted : (w.noteCall a).Echoes (w'.noteCall a) := by
    cases a with
    | call c => exact h.happen (.refl _)
    | _ => exact h
  unfold World.act
  -- the outside is in the same state in both, so it behaves in the same way
  rw [h.outside_eq]
  generalize o a w.outside = conduct
  have hlived := (hnoted.withOutside conduct.start).answers
    (f := fun w => w.live g conduct.beats) fun u s past => live_atop s past g conduct.beats u
  dsimp only at hlived ⊢
  rcases hw : ((w.noteCall a).withOutside conduct.start).live g conduct.beats with ⟨cut, v⟩
  rcases hw' : ((w'.noteCall a).withOutside conduct.start).live g conduct.beats with ⟨cut', v'⟩
  rw [hw, hw'] at hlived
  obtain ⟨rfl, hlived⟩ : cut' = cut ∧ v.Echoes v' := hlived
  cases cut' with
  | some cut => exact ⟨rfl, hlived⟩
  | none =>
    dsimp only
    cases conduct.ending with
    | some ending => exact ⟨rfl, hlived.withOutside ending.2⟩
    | none =>
      obtain ⟨hcut, hhung⟩ := hlived.answers (f := fun w => w.hang g) fun u s past =>
        hang_atop u s past g
      exact ⟨congrArg Except.error hcut, hhung⟩

theorem step (h : w.Echoes w') (g : Guard) (s : Step) : Both (w.step o g s) (w'.step o g s) := by
  cases s with
  | act a => exact h.act g a
  | forever =>
    obtain ⟨hcut, hhung⟩ := h.answers (f := fun w => w.hang g) fun u s past => hang_atop u s past g
    exact ⟨congrArg Except.error hcut, hhung⟩
  | sleep d =>
    have hslept := h.answers (f := fun w => w.sleep g d) fun u s past => sleep_atop u s past g d
    unfold World.step
    dsimp only at hslept ⊢
    rcases hw : w.sleep g d with ⟨cut, v⟩
    rcases hw' : w'.sleep g d with ⟨cut', v'⟩
    rw [hw, hw'] at hslept
    obtain ⟨rfl, hslept⟩ : cut' = cut ∧ v.Echoes v' := hslept
    cases cut' <;> exact ⟨rfl, hslept⟩

theorem answer (h : w.Echoes w') (r : Request) :
    Option.Rel Both (w.answer o r) (w'.answer o r) := by
  have hself {β : Type} (f : {τ : Type} → World τ → β)
      (hf : ∀ {τ : Type} (u : World Unit) (s : τ) (past : List Happening),
        f (u.atop s past) = f u) : Both (f w, w) (f w', w') :=
    h.answers (f := fun w => (f w, w)) fun u s past => congrArg (·, u.atop s past) (hf u s past)
  cases r with
  | step g s => exact .some (h.step g s)
  | say r => exact .some ⟨rfl, h.happen (.refl _)⟩
  | tell s => exact .some ⟨rfl, h.happen (.refl _)⟩
  | stop who =>
    exact .some ⟨rfl, h.map (f := fun w => w.stop (.inside who)) fun u s past =>
      stop_atop u s past _⟩
  | isStopped => exact .some (hself World.isStopped fun _ _ _ => rfl)
  | pulse => exact .some ⟨rfl, h.map (f := World.pulse) fun _ _ _ => rfl⟩
  | extend d => exact .some ⟨rfl, h.map (f := fun w => w.extend d) fun _ _ _ => rfl⟩
  | now => exact .some (hself World.now fun _ _ _ => rfl)
  | calendar => exact .some (hself World.calendar fun _ _ _ => rfl)
  | limit d => exact .some (hself (World.limit · d) fun _ _ _ => rfl)
  | tooDeep => exact .none

/-- **Echoing workers are answered alike**, and come to the same result. -/
theorem run {p p' : Worker α} (hp : Worker.Echoes p p') (h : w.Echoes w') :
    Option.Rel Both (World.run o p w) (World.run o p' w') := by
  induction hp generalizing w w' with
  | done a => exact .some ⟨rfl, h⟩
  -- what is told only goes into the history
  | tell hs _ ih => exact ih () (h.happen (.stage hs))
  | ask r _ ih =>
    rw [run_ask, run_ask]
    have hanswer := h.answer (o := o) r
    generalize w.answer o r = x, w'.answer o r = x' at hanswer ⊢
    cases hanswer with
    | none => exact .none
    | @some x x' hx =>
      obtain ⟨answer, v⟩ := x
      obtain ⟨answer', v'⟩ := x'
      obtain ⟨rfl, hv⟩ : answer' = answer ∧ v.Echoes v' := hx
      exact ih answer' hv

end Echoes
end World

/-! ## Ends -/

/-- What plugins have done, in order: their starts and their ends, and what they have seen. -/
def executions (history : List Happening) : List Notice :=
  history.reverse.filterMap fun
    | .notice (.sight s) => some (.sight s)
    | .stage (.pluginStarted plugin phase) => some (.stage (.pluginStarted plugin phase))
    | .stage (.pluginEnded plugin phase) => some (.stage (.pluginEnded plugin phase))
    | .stage (.pluginLeft plugin phase) => some (.stage (.pluginLeft plugin phase))
    | _ => none

/-- What does not tell echoes apart finds the same in both histories. -/
theorem World.Echoes.filterMap_eq {w w' : World σ} (h : w.Echoes w') (f : Happening → Option α)
    (hf : ∀ s s' : Stage, s.Echoes s' → f (.stage s') = f (.stage s)) :
    w'.history.reverse.filterMap f = w.history.reverse.filterMap f := by
  have hsame : List.Forall₂ Eq (w.history.filterMap f) (w'.history.filterMap f) := by
    refine List.rel_filterMap (fun x x' hx => ?_) h.history
    have heq : f x' = f x := by
      cases hx with
      | refl _ => rfl
      | stage hs => exact hf _ _ hs
    rw [heq]
    cases f x with
    | none => exact .none
    | some a => exact .some rfl
  rw [List.forall₂_eq_eq_eq] at hsame
  rw [List.filterMap_reverse, List.filterMap_reverse, hsame]

/-- Two runs that have ended alike: with the same outcome after the same calls, reports, log records
and executions of plugins, and with the same outside; the rest of their worlds is the same as well,
but for the order of the actions in the events that their stages show. -/
structure Ended.Echoes (e e' : Ended σ) : Prop where
  outcome_eq : e'.outcome = e.outcome
  doneAtStop_eq : e'.doneAtStop = e.doneAtStop
  calls_eq : calls e'.world.history = calls e.world.history
  reports_eq : e'.world.reports = e.world.reports
  records_eq : e'.world.records = e.world.records
  executions_eq : executions e'.world.history = executions e.world.history
  outside_eq : e'.world.outside = e.world.outside
  world : e.world.Echoes e'.world

/-- The supervisor and the owner have the same last word on both. -/
theorem World.Echoes.conclude {w w' : World σ} (h : w.Echoes w') (owned : Bool)
    (outcome : Outcome) : (w.conclude owned outcome).Echoes (w'.conclude owned outcome) := by
  have hsettled := h.map (f := World.settle) fun u s past => settle_atop u s past
  have hend := hsettled.map (f := World.awaitOwner) fun u s past => awaitOwner_atop u s past
  have howner : w'.stopAt = w.stopAt := by rw [h.rest]
  exact {
    outcome_eq := congrArg (fun u : World Unit => u.verdict outcome) hend.bare_eq
    doneAtStop_eq := by rw [World.conclude, World.conclude, howner]
    calls_eq := hend.filterMap_eq _ fun _ _ _ => rfl
    reports_eq := by
      rw [World.reports, World.reports, World.notices, World.notices, List.filterMap_filterMap,
        List.filterMap_filterMap]
      exact hend.filterMap_eq _ fun _ _ hs => hs.report?_eq
    records_eq := by
      rw [World.records, World.records, World.notices, World.notices, List.filterMap_filterMap,
        List.filterMap_filterMap]
      exact hend.filterMap_eq _ fun _ _ hs => congrArg (Option.map Report.record) hs.report?_eq
    executions_eq := hend.filterMap_eq _ fun s s' hs => by cases hs <;> rfl
    outside_eq := hend.outside_eq
    world := hend }

/-- **Runs of events that say the same end alike**, or neither of them comes to an end. -/
theorem Setup.echoes_run (setup : Setup) (o : Outside σ) (calendar : Calendar)
    (stopAt : Option Duration) {events events' : List Event} (h : Event.EchoAll events events')
    (outside : σ) : Option.Rel Ended.Echoes (setup.run o calendar stopAt events outside)
      (setup.run o calendar stopAt events' outside) := by
  have hworkers := World.Echoes.run (o := o) (setup.echoes_worker h (setup.session calendar))
    (.refl (World.start setup calendar stopAt outside))
  unfold run
  dsimp only
  generalize World.run o (setup.worker events (setup.session calendar)) _ = x,
    World.run o (setup.worker events' (setup.session calendar)) _ = x' at hworkers ⊢
  cases hworkers with
  | none => exact .none
  | @some x x' hx =>
    obtain ⟨outcome, w⟩ := x
    obtain ⟨outcome', w'⟩ := x'
    obtain ⟨rfl, hw⟩ : outcome' = outcome ∧ w.Echoes w' := hx
    exact .some (hw.conclude _ _)

end PageScript
