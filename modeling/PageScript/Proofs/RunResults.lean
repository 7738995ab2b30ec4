import PageScript.Proofs.FollowedTours

/-!
# What a run comes to

`Stretch.Lands` says of a part of a run that it comes to an end, and to which: the weakest
precondition of a run that has to end. It follows the program as `Stretch.Leads` does, which leaves
open whether there is an end at all. A traversal is given up only where scripts include each other too
deeply. So plain parts of a run always come to an end, and a traversal does if its parts do. Once the
run is stopped nothing more is begun. A script that has been loaded has not been cut short by the
watchdog.
-/

namespace PageScript

variable {σ α β ε : Type} {o : Outside σ}

/-- A part of a run that starts with this session in this world comes to an end, and to one as
said. -/
def Stretch.Lands (o : Outside σ) (p : Stretch α) (s : Session) (w : World σ)
    (Q : α → Session → World σ → Prop) : Prop :=
  ∃ a s' w', World.run o (p s) w = some ((a, s'), w') ∧ Q a s' w'

namespace Stretch

variable {s s' : Session} {w w' : World σ} {p : Stretch α} {a : α}
  {Q R : α → Session → World σ → Prop} {D : Except ε α → Session → World σ → Prop}

theorem lands_iff (hrun : World.run o (p s) w = some ((a, s'), w')) :
    Lands o p s w Q ↔ Q a s' w' := by
  constructor
  · rintro ⟨b, s₁, w₁, hrun₁, hb⟩
    cases hrun.symm.trans hrun₁
    exact hb
  · exact fun ha => ⟨a, s', w', hrun, ha⟩

theorem Lands.mono (h : Lands o p s w Q) (imp : ∀ a s' w', Q a s' w' → R a s' w') :
    Lands o p s w R := by
  obtain ⟨a, s', w', hrun, ha⟩ := h
  exact ⟨a, s', w', hrun, imp a s' w' ha⟩

theorem Lands.and (h : Lands o p s w Q) (h' : Leads o p s w R) :
    Lands o p s w fun a s' w' => Q a s' w' ∧ R a s' w' := by
  obtain ⟨a, s', w', hrun, ha⟩ := h
  exact ⟨a, s', w', hrun, ha, h' _ _ hrun⟩

theorem lands_pure (a : α) : Lands o (pure a) s w Q ↔ Q a s w := lands_iff rfl

theorem lands_bind (p : Stretch β) (f : β → Stretch α) :
    Lands o (p >>= f) s w Q ↔ Lands o p s w fun b s' w' => Lands o (f b) s' w' Q := by
  have hrun : World.run o ((p >>= f) s) w =
      (World.run o (p s) w).bind fun x => World.run o (f x.1.1 x.1.2) x.2 :=
    World.run_bind o (p s) (fun x => f x.1 x.2) w
  unfold Lands
  rw [hrun]
  constructor
  · rintro ⟨a, s', w', hr, ha⟩
    obtain ⟨⟨⟨b, s₁⟩, w₁⟩, hx, hrest⟩ := Option.bind_eq_some_iff.1 hr
    exact ⟨b, s₁, w₁, hx, a, s', w', hrest, ha⟩
  · rintro ⟨b, s₁, w₁, hx, a, s', w', hrest, ha⟩
    exact ⟨a, s', w', Option.bind_eq_some_iff.2 ⟨_, hx, hrest⟩, ha⟩

theorem lands_map (f : β → α) (p : Stretch β) :
    Lands o (f <$> p) s w Q ↔ Lands o p s w fun b => Q (f b) := by
  rw [map_eq_pure_bind, lands_bind]
  simp only [lands_pure]

theorem lands_ofWorker {p : Worker α} (hrun : World.run o p w = some (a, w')) :
    Lands o (ofWorker p) s w Q ↔ Q a s w' := by
  refine lands_iff ?_
  change World.run o (p >>= fun a => pure (a, s)) w = _
  rw [World.run_bind, hrun]
  rfl

theorem lands_run_pure (a : α) :
    Lands o (pure a : ExceptT ε Stretch α).run s w D ↔ D (.ok a) s w := lands_iff rfl

theorem lands_run_throw (e : ε) :
    Lands o (throw e : ExceptT ε Stretch α).run s w D ↔ D (.error e) s w := lands_iff rfl

theorem lands_run_bind (p : ExceptT ε Stretch β) (f : β → ExceptT ε Stretch α) :
    Lands o (p >>= f).run s w D ↔ Lands o p.run s w fun r s' w' =>
      match r with
      | .ok b => Lands o (f b).run s' w' D
      | .error e => D (.error e) s' w' := by
  rw [ExceptT.run_bind, lands_bind]
  refine iff_of_eq (congrArg _ ?_)
  funext r s' w'
  cases r with
  | ok b => rfl
  | error e => exact propext (lands_pure (Except.error e))

theorem lands_run_lift (p : Stretch α) :
    Lands o (ExceptT.lift p : ExceptT ε Stretch α).run s w D ↔
      Lands o p s w fun a => D (.ok a) := by
  rw [ExceptT.run_lift, lands_map]

section Parts

variable {F : Except Failure Unit → Session → World σ → Prop}
  {J : Except Error Unit → Session → World σ → Prop}

theorem lands_journey_tell (st : Stage) :
    Lands o (Journey.tell st).run s w J ↔ J (.ok ()) s (w.tell (.stage st)) := lands_iff rfl

theorem lands_journey_say (r : Remark) :
    Lands o (Journey.say r).run s w J ↔ J (.ok ()) s (w.say r) := lands_iff rfl

theorem lands_journey_pulse : Lands o Journey.pulse.run s w J ↔ J (.ok ()) s w.pulse :=
  lands_iff rfl

theorem lands_journey_isStopped {J : Except Error Bool → Session → World σ → Prop} :
    Lands o (Journey.ofWorker Worker.isStopped).run s w J ↔ J (.ok w.isStopped) s w :=
  lands_iff rfl

theorem lands_detour_isStopped {F : Except Failure Bool → Session → World σ → Prop} :
    Lands o (Detour.ofWorker Worker.isStopped).run s w F ↔ F (.ok w.isStopped) s w :=
  lands_iff rfl

theorem lands_enterRow (cells : Row) : Lands o (Detour.enterRow cells).run s w F ↔
    F (.ok ()) { s with vars := cells.foldl (fun v c => v.put c.1 c.2) s.vars.push }
      (w.tell (.stage (.row cells))) := lands_iff rfl

theorem lands_leaveRow {vars : Vars} (hpop : s.vars.pop = .ok vars) :
    Lands o Detour.leaveRow.run s w F ↔ F (.ok ()) { s with vars } w := by
  have hget (f : Session → Detour Unit) :
      (get >>= f : Detour Unit).run s = (f s).run s := rfl
  refine lands_iff ?_
  rw [Detour.leaveRow, hget, hpop]
  rfl

theorem lands_within {j : Journey Unit}
    {F : Except Failure (Except Error Unit) → Session → World σ → Prop} :
    Lands o (Detour.within j).run s w F ↔ Lands o j.run s w fun r => F (.ok r) :=
  lands_run_lift _

theorem lands_attempt {p : ExceptT ε Stretch α}
    {J : Except Error (Except ε α) → Session → World σ → Prop} :
    Lands o (Journey.attempt p).run s w J ↔ Lands o p.run s w fun r => J (.ok r) :=
  lands_run_lift _

theorem lands_ofPassage {p : Passage α} {F : Except Failure α → Session → World σ → Prop} :
    Lands o (Detour.ofPassage p).run s w F ↔ Lands o p.run s w fun r => F (r.mapError .own) :=
  lands_map _ _

end Parts

end Stretch

/-! ## Plain parts -/

theorem World.exists_answer {r : Request} (h : r.Plain) (w : World σ) :
    ∃ x w', w.answer o r = some (x, w') := by
  cases r <;> first | exact ⟨_, _, rfl⟩ | cases h

/-- Plain workers come to an end. -/
theorem Worker.Plain.lands {Q : α → Prop} {p : Worker α} (h : Worker.Plain Q p) (w : World σ) :
    ∃ a w', World.run o p w = some (a, w') ∧ Q a := by
  induction h generalizing w with
  | done ha => exact ⟨_, w, rfl, ha⟩
  | ask hr _ ih =>
    obtain ⟨x, w₁, hx⟩ := World.exists_answer (o := o) hr w
    obtain ⟨a, w', hrun, ha⟩ := ih x w₁
    refine ⟨a, w', ?_, ha⟩
    rw [World.run_ask, hx]
    exact hrun

/-- Where no plugins are active, plain parts of a run come to an end, and make none active. -/
theorem Stretch.Plain.lands {s : Session} {w : World σ} {p : Stretch α} (h : Plain p)
    (hs : s.registry = []) : Lands o p s w fun _ s' _ => s'.registry = [] := by
  obtain ⟨⟨a, s'⟩, w', hrun, ha⟩ := (h s hs).lands (o := o) w
  exact ⟨a, s', w', hrun, ha⟩

/-! ## Siblings and rows -/

section Traversal

open Stretch

variable {setup : Setup} {follow : List Event → Option Element → Journey Unit} {event : Event}
  {events : List Event} {parent : Option Element} {s : Session} {w : World σ}
  {J : Except Error Unit → Session → World σ → Prop}

namespace Journey

/-- Once the run is stopped, no siblings are begun. -/
theorem lands_visitAll_of_stopped (hstop : w.isStopped = true) :
    Lands o (visitAll setup follow events parent).run s w fun _ s' _ => s' = s := by
  cases events with
  | nil =>
    rw [visitAll]
    exact lands_run_pure _ |>.2 rfl
  | cons event events =>
    rw [visitAll, lands_run_bind, lands_journey_isStopped, hstop]
    exact lands_journey_say _ |>.2 rfl

theorem lands_visitAll_cons (hgoes : w.isStopped = false) :
    Lands o (visitAll setup follow (event :: events) parent).run s w J ↔
      Lands o (visitOne setup follow event parent).run s w fun r s' w' =>
        (r = .ok () → Lands o (visitAll setup follow events parent).run s' w' J) ∧
        ∀ e, r = .error e → J (.error e) s' w' := by
  rw [visitAll, lands_run_bind, lands_journey_isStopped, hgoes]
  dsimp only
  rw [if_neg (by decide), lands_run_bind]
  refine iff_of_eq (congrArg _ ?_)
  funext r s' w'
  cases r <;> simp

/-- Siblings come to an end if the first of them do, and those after them from there. -/
theorem lands_visitAll_append {R : Session → Prop} {first later : List Event}
    (h : Lands o (visitAll setup follow first parent).run s w fun r s' w' => R s' ∧ (r = .ok () →
      Lands o (visitAll setup follow later parent).run s' w' fun _ s'' _ => R s'')) :
    Lands o (visitAll setup follow (first ++ later) parent).run s w fun _ s' _ => R s' := by
  induction first generalizing s w with
  | nil =>
    rw [visitAll] at h
    exact (lands_run_pure _ |>.1 h).2 rfl
  | cons event first ih =>
    cases hgoes : w.isStopped with
    | true =>
      obtain ⟨r, s', w', hrun, hr, -⟩ := h
      obtain rfl := lands_iff hrun |>.1 (lands_visitAll_of_stopped hgoes)
      exact (lands_visitAll_of_stopped hgoes).mono fun _ _ _ hs => hs ▸ hr
    | false =>
      refine lands_visitAll_cons hgoes |>.2 ((lands_visitAll_cons hgoes |>.1 h).mono ?_)
      rintro r s' w' ⟨hok, herror⟩
      exact ⟨fun h => ih (hok h), fun e he => (herror e he).1⟩

end Journey

namespace Detour

variable {children : Journey Unit} {cells : Row} {rows : List Row}
  {F : Except Failure Unit → Session → World σ → Prop}

theorem lands_forRows_of_stopped (hstop : w.isStopped = true) :
    Lands o (forRows children rows).run s w fun _ s' w' => s' = s ∧ w' = w := by
  cases rows with
  | nil =>
    rw [forRows]
    exact lands_run_pure _ |>.2 ⟨rfl, rfl⟩
  | cons cells rows =>
    rw [forRows, lands_run_bind, lands_detour_isStopped, hstop]
    exact lands_run_pure _ |>.2 ⟨rfl, rfl⟩

theorem lands_leaveRow_registry :
    Lands o leaveRow.run s w fun _ s' w' => s'.registry = s.registry ∧ w' = w := by
  have hget (f : Session → Detour Unit) :
      (get >>= f : Detour Unit).run s = (f s).run s := rfl
  cases hpop : s.vars.pop with
  | ok vars => exact lands_leaveRow hpop |>.2 ⟨rfl, rfl⟩
  | error e =>
    have hfails : World.run o (leaveRow.run s) w = some ((.error (.ofError e), s), w) := by
      rw [leaveRow, hget, hpop]
      rfl
    exact lands_iff hfails |>.2 ⟨rfl, rfl⟩

theorem lands_forRows_cons (hgoes : w.isStopped = false) :
    Lands o (forRows children (cells :: rows)).run s w F ↔
      Lands o children.run
        { s with vars := cells.foldl (fun v c => v.put c.1 c.2) s.vars.push }
        (w.tell (.stage (.row cells))) fun r s' w' => Lands o leaveRow.run s' w' fun left s'' w'' =>
          (∀ failure, left = .error failure → F (.error failure) s'' w'') ∧
          (left = .ok () → (r = .ok () → Lands o (forRows children rows).run s'' w'' F) ∧
            ∀ e, r = .error e → F (.error (.halted e)) s'' w'') := by
  rw [forRows, lands_run_bind, lands_detour_isStopped, hgoes]
  dsimp only
  rw [if_neg (by decide), lands_run_bind, lands_enterRow]
  dsimp only
  rw [lands_run_bind, lands_within]
  refine iff_of_eq (congrArg _ ?_)
  funext r s' w'
  dsimp only
  rw [lands_run_bind]
  refine congrArg _ ?_
  funext left s'' w''
  cases left with
  | error failure => simp
  | ok _ =>
    dsimp only
    rw [lands_run_bind]
    cases r with
    | error e => simp [Detour.orHalt, lands_pure]
    | ok _ => simp [Detour.orHalt, lands_pure]

end Detour

/-! ## One event -/

namespace Journey

variable {inside : Journey Unit} {below : Option Element → Journey Unit}

theorem lands_runEvent : Lands o (runEvent setup follow inside below event parent).run s w J ↔
    Lands o (Passage.openEvent setup event parent).run s
      (w.tell (.stage (.started event parent))).pulse fun result s₁ w₁ =>
        (∀ mishap, result = .error mishap → Lands o
          (descend setup below event (.error (.own mishap)) >>= finish setup event).run s₁ w₁ J) ∧
        ∀ opened, result = .ok opened →
          Lands o (Detour.followInner follow inside parent opened.inner).run s₁ w₁ fun r s₂ w₂ =>
            (r = .ok () →
              Lands o (descend setup below event (.ok opened) >>= finish setup event).run s₂ w₂ J) ∧
            ∀ failure, r = .error failure → Lands o
              (descend setup below event (.error failure) >>= finish setup event).run s₂ w₂ J := by
  rw [runEvent, lands_run_bind, lands_journey_tell]
  dsimp only
  rw [lands_run_bind, lands_journey_pulse]
  dsimp only
  rw [lands_run_bind, lands_attempt, Detour.opening, lands_run_bind, lands_ofPassage]
  refine iff_of_eq (congrArg _ ?_)
  funext result s₁ w₁
  cases result with
  | error mishap => simp [mapError_error]
  | ok opened =>
    have hok : (Except.ok opened : Except Mishap Opened).mapError Failure.own = .ok opened := rfl
    rw [hok]
    dsimp only
    rw [lands_run_bind]
    simp only [reduceCtorEq, false_imp_iff, implies_true, true_and, Except.ok.injEq, forall_eq']
    refine congrArg _ ?_
    funext r s₂ w₂
    cases r with
    | error failure => simp
    | ok _ => simp [lands_pure]

/-- Once all that belongs to an event is done, the rest of it comes to an end. -/
theorem lands_closing (hplugins : setup.plugins = []) (hs : s.registry = [])
    {result : Except Failure Opened}
    (hbelow : ∀ opened, result = .ok opened → event.descends = true →
      Lands o (below opened.element).run s w fun _ s' _ => s'.registry = []) :
    Lands o (descend setup below event result >>= finish setup event).run s w
      fun _ s' _ => s'.registry = [] := by
  have hfinish {s : Session} {w : World σ} (hs : s.registry = []) (element : Option Element) :
      Lands o (finish setup event element).run s w fun _ s' _ => s'.registry = [] :=
    (plain_finish event element).lands hs
  rw [lands_run_bind]
  cases result with
  | error failure =>
    rw [descend, lands_run_bind]
    refine ((plain_report event failure).lands hs).mono fun r s' w' hs' => ?_
    cases r with
    | error e => exact hs'
    | ok _ => exact lands_run_pure _ |>.2 (hfinish hs' none)
  | ok opened =>
    have hrest {s : Session} {w : World σ} (hs : s.registry = []) :
        Lands o ((leave setup event opened.restore >>= fun _ => pure opened.element) >>=
          finish setup event).run s w fun _ s' _ => s'.registry = [] := by
      rw [lands_run_bind, lands_run_bind]
      refine ((plain_settle hplugins event (.ok opened)).lands hs).mono fun r s' w' hs' => ?_
      cases r with
      | error e => exact hs'
      | ok _ => exact lands_run_pure _ |>.2 (hfinish hs' opened.element)
    rw [descend]
    split
    · rename_i hdescends
      rw [lands_run_bind]
      refine (hbelow opened rfl hdescends).mono fun r s' w' hs' => ?_
      cases r with
      | error e => exact hs'
      | ok _ => exact lands_run_bind _ _ |>.1 (hrest hs')
    · exact lands_run_bind _ _ |>.1 (hrest hs)

end Journey
end Traversal

/-! ## Scripts that are loaded -/

namespace World

variable {w v : World σ}

theorem Untripped.reach (h : w.Untripped) (due : Duration) (first : Bool) :
    (w.reach due first).Untripped := by
  intro t hmem
  rcases w.history_reach due first with heq | ⟨_, _, heq⟩
  · exact h t (heq ▸ hmem)
  · rw [heq] at hmem
    exact (List.mem_cons.1 hmem).elim nofun (h t)

theorem Untripped.stop (h : w.Untripped) {who : Stopper} (hwho : who ≠ .watchdog) :
    (w.stop who).Untripped := by
  unfold World.stop
  split
  · exact h
  · exact fun t hmem => (List.mem_cons.1 hmem).elim (fun heq => by cases heq; exact hwho rfl) (h t)

theorem Untripped.tell (h : w.Untripped) {n : Notice} (hn : ∀ t, n ≠ .mark (.stopped .watchdog t)) :
    (w.tell n).Untripped :=
  fun t hmem => (List.mem_cons.1 hmem).elim (fun heq => hn t (by cases heq; rfl)) (h t)

/-- A wait that comes to its own end has not been cut short by the watchdog. -/
theorem Untripped.await (h : w.Untripped) {due : Option Duration}
    (hawait : w.await (.untilStop none) due = (none, v)) : v.Untripped := by
  unfold World.await at hawait
  rw [if_neg (by simp [Guard.limit?])] at hawait
  split at hawait
  · cases hawait
  dsimp only at hawait
  split at hawait
  · unfold arrive at hawait
    split at hawait
    · cases hawait
    · obtain ⟨-, rfl⟩ := Prod.mk.inj hawait
      exact h.reach _ _
  · cases hawait

theorem Untripped.live (h : w.Untripped) {beats : List Beat}
    (hlive : w.live (.untilStop none) beats = (none, v)) : v.Untripped := by
  induction beats generalizing w with
  | nil =>
    obtain ⟨-, rfl⟩ := Prod.mk.inj hlive
    exact h
  | cons beat beats ih =>
    cases beat with
    | rest d =>
      rw [World.live] at hlive
      rcases hres : w.sleep (.untilStop none) d with ⟨_ | cut, u⟩ <;> rw [hres] at hlive
      · refine ih ?_ hlive
        unfold World.sleep at hres
        split at hres
        · cases hres
          exact h
        · exact h.await hres
      · cases hlive
    | giveWay =>
      rw [World.live] at hlive
      rcases hres : w.await (.untilStop none) (some w.now) with ⟨_ | cut, u⟩ <;> rw [hres] at hlive
      · exact ih (h.await hres) hlive
      · cases hlive
    | stop =>
      have hstop : (w.stop .outside).Untripped := h.stop fun heq => by cases heq
      exact ih hstop hlive
    | note r =>
      have hsaid : (w.say (.record r)).Untripped := h.tell fun t heq => by cases heq
      exact ih hsaid hlive

theorem Untripped.noteCall (h : w.Untripped) (a : Action) : (w.noteCall a).Untripped := by
  cases a with
  | call c => exact fun t hmem => (List.mem_cons.1 hmem).elim nofun (h t)
  | _ => exact h

/-- An action that is answered has not been cut short by the watchdog. -/
theorem Untripped.act (h : w.Untripped) {a : Action} {x : a.Answer}
    (hact : w.act o (.untilStop none) a = (.ok x, v)) : v.Untripped := by
  unfold World.act at hact
  dsimp only at hact
  rcases hlive : ((w.noteCall a).withOutside (o a w.outside).start).live (.untilStop none)
    (o a w.outside).beats with ⟨_ | cut, u⟩ <;> rw [hlive] at hact
  · dsimp only at hact
    have hnoted : ((w.noteCall a).withOutside (o a w.outside).start).Untripped := h.noteCall a
    have hu := hnoted.live hlive
    split at hact
    · obtain ⟨-, rfl⟩ := Prod.mk.inj hact
      exact hu
    · cases hact
  · cases hact

end World

section Loaded

open Stretch

variable {setup : Setup} {event : Event} {parent : Option Element} {s : Session} {w : World σ}

theorem Opens.kind_eq {outside : σ} {opened : Opened} (h : Opens setup o event parent s outside opened)
    {included : List Event} (hinner : opened.inner = .events included) :
    event.kind = .command .script := by
  cases h with
  | script hkind => exact hkind
  | _ => cases hinner

/-- A script that has been loaded has not been cut short by the watchdog. -/
theorem untripped_script (hw : w.Untripped) :
    Leads o (Act.play setup (Act.script setup event)) s w fun r _ w' =>
      ∀ included, r = .ok included → w'.Untripped := by
  have hrequire : Leads o (Act.play setup (Act.require setup event "file")) s w fun _ _ w' =>
      w' = w := by
    cases htext : event.actions.text? "file" with
    | some raw => exact leads_require (by rw [htext]; rfl) |>.2 rfl
    | none =>
      rw [Act.require, leads_play_bind, Act.action?, htext, Act.fill?, leads_play_pure]
      exact leads_play_fail _ |>.2 rfl
  rw [Act.script, leads_play_bind]
  refine hrequire.mono ?_
  rintro r s' w' rfl
  cases r with
  | error m => exact fun _ heq => by cases heq
  | ok file =>
    dsimp only
    split
    · rw [leads_play_bind]
      exact leads_play_fail _ |>.2 fun _ heq => by cases heq
    rw [leads_play_bind, Act.perform, Act.step, leads_play_bind, leads_play_move, Move.play,
      leads_ofWorker, World.leads_guarded]
    split
    · exact leads_play_fail _ |>.2 fun _ heq => by cases heq
    rcases hact : w'.act o (.untilStop none) (.loadScript (Act.path setup file)) with ⟨r, v⟩
    dsimp only [World.step]
    rw [hact]
    rcases r with cut | e | events
    · exact leads_play_fail _ |>.2 fun _ heq => by cases heq
    · dsimp only [Act.orAbort]
      rw [leads_play_pure]
      exact leads_play_fail _ |>.2 fun _ heq => by cases heq
    · -- the events are there, so no stop has cut the loading short
      have hv : v.Untripped := hw.act hact
      dsimp only [Act.orAbort]
      rw [leads_play_pure]
      dsimp only
      rw [leads_play_bind, Act.log, leads_play_say]
      exact leads_play_pure _ |>.2 fun _ _ => hv.tell fun t heq => by cases heq

theorem untripped_openEvent (hw : w.Untripped) :
    Leads o (Passage.openEvent setup event parent).run s w fun r _ w' => ∀ opened,
      r = .ok opened → ∀ included, opened.inner = .events included → w'.Untripped := by
  have hcarried : Leads o (Passage.carryOut setup event parent).run s w fun r _ w' => ∀ opened,
      r = .ok opened → ∀ included, opened.inner = .events included → w'.Untripped := by
    by_cases hkind : event.kind = .command .script
    · rw [Passage.carryOut, hkind]
      dsimp only
      rw [leads_run_bind, Passage.act, leads_run_mk]
      refine (untripped_script hw).mono fun r s' w' hr => ?_
      cases r with
      | error m => exact fun _ heq => by cases heq
      | ok loaded => exact leads_run_pure _ |>.2 fun _ _ _ _ => hr loaded rfl
    · exact Leads.mono (carries_carryOut event parent) fun r s' w' hr opened heq included hinner =>
        absurd ((hr.2 opened heq).kind_eq hinner) hkind
  rw [Passage.openEvent, leads_run_bind, leads_run_lift]
  refine hcarried.mono fun r s' w' hr => ?_
  dsimp only
  rw [leads_run_bind, leads_passage_tell]
  exact leads_run_mk _ |>.2 (leads_pure _ |>.2 fun opened heq included hinner =>
    (hr opened heq included hinner).tell fun t h => by cases h)

end Loaded

/-! ## Runs -/

section Runs

open Stretch

variable {setup : Setup} {calendar : Calendar} {stopAt : Option Duration} {events : List Event}
  {outside : σ}

/-- A run comes to an end if its events do. -/
theorem exists_run_of_lands (h : Lands o (Journey.main setup events) (setup.session calendar)
    (.opened setup calendar stopAt events outside) fun _ s _ => s.registry = []) :
    ∃ ended, setup.run o calendar stopAt events outside = some ended := by
  have htest : Lands o (Journey.test setup events) (setup.session calendar)
      (.opened setup calendar stopAt events outside) fun _ _ _ => True := by
    rw [Journey.test, lands_bind]
    refine h.mono fun result s w hs => ?_
    have hafter : Lands o (ofWorker (s.fireAfterTest setup)) s w fun _ _ _ => True :=
      lands_ofWorker (Session.run_fireAfterTest hs w) |>.2 trivial
    exact lands_bind _ (fun _ => pure result) |>.2
      (hafter.mono fun _ _ _ _ => lands_pure _ |>.2 trivial)
  obtain ⟨result, s, w, hrun, -⟩ := htest
  have hworker : World.run o (setup.worker events (setup.session calendar))
      (.start setup calendar stopAt outside) = World.run o (Worker.conclude result) w := by
    change World.run o ((Journey.test setup events).run (setup.session calendar) >>= fun x =>
      Worker.conclude x.1) (.opened setup calendar stopAt events outside) = _
    rw [World.run_bind, StateT.run, hrun]
    rfl
  have hconcludes : ∃ outcome w', World.run o (Worker.conclude result) w = some (outcome, w') := by
    cases result <;> exact ⟨_, _, rfl⟩
  obtain ⟨outcome, w', hw'⟩ := hconcludes
  exact ⟨_, congrArg (Option.map _) (hworker.trans hw')⟩

end Runs
end PageScript
