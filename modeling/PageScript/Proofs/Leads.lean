import PageScript.Run.Supervised

/-!
# What a run leads to

`World.Leads` says what holds of every end that a worker comes to from a world: the weakest
precondition of a run, which need not come to an end at all. `Stretch.Leads` says the same of a part
of a run that works on the session. Both follow the program: what a bind leads to is what its
first part leads to the second one from.
-/

namespace PageScript

variable {σ α β ε : Type} {o : Outside σ}

/-- Every end of a worker that starts in this world is as said. -/
def World.Leads (o : Outside σ) (w : World σ) (p : Worker α) (Q : α → World σ → Prop) : Prop :=
  ∀ a w', World.run o p w = some (a, w') → Q a w'

namespace World

variable {w : World σ} {Q : α → World σ → Prop}

theorem Leads.mono {p : Worker α} {R : α → World σ → Prop} (h : w.Leads o p Q)
    (imp : ∀ a w', Q a w' → R a w') : w.Leads o p R :=
  fun a w' hrun => imp a w' (h a w' hrun)

theorem Leads.and {p : Worker α} {R : α → World σ → Prop} (h : w.Leads o p Q)
    (h' : w.Leads o p R) : w.Leads o p fun a w' => Q a w' ∧ R a w' :=
  fun a w' hrun => ⟨h a w' hrun, h' a w' hrun⟩

@[simp] theorem leads_done (a : α) : w.Leads o (.done a) Q ↔ Q a w := by
  simp [Leads]

@[simp] theorem leads_pure (a : α) : w.Leads o (pure a) Q ↔ Q a w :=
  leads_done a

theorem leads_ask (r : Request) (next : r.Answer → Worker α) :
    w.Leads o (.ask r next) Q ↔
      ∀ x w', w.answer o r = some (x, w') → w'.Leads o (next x) Q := by
  simp only [Leads, run_ask, Option.bind_eq_some_iff, Prod.exists]
  grind

@[simp] theorem leads_bind (p : Worker β) (f : β → Worker α) :
    w.Leads o (p >>= f) Q ↔ w.Leads o p fun b w' => w'.Leads o (f b) Q := by
  simp only [Leads, run_bind, Option.bind_eq_some_iff, Prod.exists]
  grind

theorem leads_request {r : Request} {x : r.Answer} {w' : World σ}
    (h : w.answer o r = some (x, w')) {Q : r.Answer → World σ → Prop} :
    w.Leads o (Program.request r) Q ↔ Q x w' := by
  simp only [Program.request, leads_ask, h, leads_done, Option.some.injEq, Prod.mk.injEq, and_imp]
  exact ⟨fun hall => hall x w' rfl rfl, fun hx _ _ hy hw => hy ▸ hw ▸ hx⟩

@[simp] theorem leads_step (g : Guard) (s : Step) {Q : Except Cut s.Answer → World σ → Prop} :
    w.Leads o (Worker.step g s) Q ↔ Q (w.step o g s).1 (w.step o g s).2 :=
  leads_request (r := .step g s) rfl

@[simp] theorem leads_say (r : Remark) {Q : Unit → World σ → Prop} :
    w.Leads o (Worker.say r) Q ↔ Q () (w.say r) :=
  leads_request (r := .say r) rfl

@[simp] theorem leads_tell (s : Stage) {Q : Unit → World σ → Prop} :
    w.Leads o (Worker.tell s) Q ↔ Q () (w.tell (.stage s)) :=
  leads_request (r := .tell s) rfl

@[simp] theorem leads_stop (who : Insider) {Q : Unit → World σ → Prop} :
    w.Leads o (Worker.stop who) Q ↔ Q () (w.stop (.inside who)) :=
  leads_request (r := .stop who) rfl

@[simp] theorem leads_pulse {Q : Unit → World σ → Prop} :
    w.Leads o Worker.pulse Q ↔ Q () w.pulse :=
  leads_request (r := .pulse) rfl

@[simp] theorem leads_extend (d : Duration) {Q : Unit → World σ → Prop} :
    w.Leads o (Worker.extend d) Q ↔ Q () (w.extend d) :=
  leads_request (r := .extend d) rfl

@[simp] theorem leads_now {Q : Duration → World σ → Prop} :
    w.Leads o Worker.now Q ↔ Q w.now w :=
  leads_request (r := .now) rfl

@[simp] theorem leads_calendar {Q : Calendar → World σ → Prop} :
    w.Leads o Worker.calendar Q ↔ Q w.calendar w :=
  leads_request (r := .calendar) rfl

@[simp] theorem leads_limit (d : Duration) {Q : Limit → World σ → Prop} :
    w.Leads o (Worker.limit d) Q ↔ Q (w.limit d) w :=
  leads_request (r := .limit d) rfl

/-- A run that is given up has no end. -/
@[simp] theorem leads_giveUp : w.Leads o Worker.giveUp Q := by
  intro a w' hrun
  cases hrun

@[simp] theorem leads_isStopped {Q : Bool → World σ → Prop} :
    w.Leads o Worker.isStopped Q ↔ Q w.isStopped w :=
  leads_request (r := .isStopped) rfl

/-- A look at the stop of the run comes first, and what follows only where the guard allows it. -/
@[simp] theorem leads_unlessStopped (g : Guard) (p : Worker (Except Cut α))
    {Q : Except Cut α → World σ → Prop} :
    w.Leads o (Worker.unlessStopped g p) Q ↔
      if g.heedsStop && w.isStopped then Q (.error .cancelled) w else w.Leads o p Q := by
  unfold Worker.unlessStopped
  rw [leads_bind, leads_isStopped]
  split <;> simp

theorem leads_guarded (g : Guard) (s : Step) {Q : Except Cut s.Answer → World σ → Prop} :
    w.Leads o (Worker.guarded g s) Q ↔
      if g.heedsStop && w.isStopped then Q (.error .cancelled) w
      else Q (w.step o g s).1 (w.step o g s).2 := by
  rw [Worker.guarded, leads_unlessStopped, leads_step]

end World

/-- Every end of a stretch that starts with this session in this world is as said. -/
def Stretch.Leads (o : Outside σ) (m : Stretch α) (s : Session) (w : World σ)
    (Q : α → Session → World σ → Prop) : Prop :=
  w.Leads o (m s) fun p w' => Q p.1 p.2 w'

namespace Stretch

variable {s : Session} {w : World σ} {Q : α → Session → World σ → Prop}

theorem Leads.mono {m : Stretch α} {R : α → Session → World σ → Prop} (h : Leads o m s w Q)
    (imp : ∀ a s' w', Q a s' w' → R a s' w') : Leads o m s w R :=
  World.Leads.mono h fun p w' => imp p.1 p.2 w'

theorem Leads.and {m : Stretch α} {R : α → Session → World σ → Prop} (h : Leads o m s w Q)
    (h' : Leads o m s w R) : Leads o m s w fun a s' w' => Q a s' w' ∧ R a s' w' :=
  World.Leads.and h h'

@[simp] theorem leads_pure (a : α) : Leads o (pure a) s w Q ↔ Q a s w :=
  World.leads_done (a, s)

@[simp] theorem leads_bind (m : Stretch β) (f : β → Stretch α) :
    Leads o (m >>= f) s w Q ↔ Leads o m s w fun b s' w' => Leads o (f b) s' w' Q :=
  World.leads_bind (m s) fun p => f p.1 p.2

@[simp] theorem leads_map (f : β → α) (m : Stretch β) :
    Leads o (f <$> m) s w Q ↔ Leads o m s w fun b => Q (f b) := by
  rw [map_eq_pure_bind, leads_bind]
  simp only [leads_pure]

@[simp] theorem leads_get {Q : Session → Session → World σ → Prop} :
    Leads o get s w Q ↔ Q s s w :=
  World.leads_done (s, s)

@[simp] theorem leads_modify (f : Session → Session) {Q : PUnit → Session → World σ → Prop} :
    Leads o (modify f) s w Q ↔ Q ⟨⟩ (f s) w :=
  World.leads_done (PUnit.unit, f s)

@[simp] theorem leads_ofWorker (p : Worker α) :
    Leads o (ofWorker p) s w Q ↔ w.Leads o p fun a w' => Q a s w' := by
  simp [Leads, ofWorker, StateT.lift]

@[simp] theorem leads_fire (setup : Setup) (occasion : Occasion)
    {Q : Unit → Session → World σ → Prop} :
    Leads o (fire setup occasion) s w Q ↔
      w.Leads o (s.fire setup occasion) fun _ w' => Q () s w' := by
  simp [fire]

/-! ## Stretches that may end early -/

variable {R : Except ε α → Session → World σ → Prop}

@[simp] theorem leads_run_pure (a : α) :
    Leads o (pure a : ExceptT ε Stretch α).run s w R ↔ R (.ok a) s w :=
  leads_pure (Except.ok a)

@[simp] theorem leads_run_throw (e : ε) :
    Leads o (throw e : ExceptT ε Stretch α).run s w R ↔ R (.error e) s w :=
  leads_pure (Except.error e)

@[simp] theorem leads_run_bind (m : ExceptT ε Stretch β) (f : β → ExceptT ε Stretch α) :
    Leads o (m >>= f).run s w R ↔
      Leads o m.run s w fun r s' w' =>
        match r with
        | .ok b => Leads o (f b).run s' w' R
        | .error e => R (.error e) s' w' := by
  rw [ExceptT.run_bind, leads_bind]
  refine iff_of_eq (congrArg _ ?_)
  funext r s' w'
  cases r <;> simp

@[simp] theorem leads_run_lift (m : Stretch α) :
    Leads o (ExceptT.lift m : ExceptT ε Stretch α).run s w R ↔
      Leads o m s w fun a => R (.ok a) := by
  rw [ExceptT.run_lift, leads_map]

@[simp] theorem leads_run_mk (m : Stretch (Except ε α)) :
    Leads o (ExceptT.mk m).run s w R ↔ Leads o m s w R := Iff.rfl

@[simp] theorem leads_run_get {R : Except ε Session → Session → World σ → Prop} :
    Leads o (get : ExceptT ε Stretch Session).run s w R ↔ R (.ok s) s w :=
  World.leads_done (Except.ok s, s)

@[simp] theorem leads_run_modify (f : Session → Session)
    {R : Except ε PUnit → Session → World σ → Prop} :
    Leads o (modify f : ExceptT ε Stretch PUnit).run s w R ↔ R (.ok ⟨⟩) (f s) w :=
  World.leads_done (Except.ok PUnit.unit, f s)

/-! ## Acts -/

section Acts

variable {setup : Setup} {F : Except Mishap α → Session → World σ → Prop}

@[simp] theorem leads_play_pure (a : α) :
    Leads o (Act.play setup (pure a)) s w F ↔ F (.ok a) s w :=
  leads_pure (Except.ok a)

@[simp] theorem leads_play_fail (m : Mishap) :
    Leads o (Act.play setup (Act.fail m)) s w F ↔ F (.error m) s w :=
  leads_pure (Except.error m)

@[simp] theorem leads_play_bind (a : Act β) (f : β → Act α) :
    Leads o (Act.play setup (a >>= f)) s w F ↔
      Leads o (a.play setup) s w fun r s' w' =>
        match r with
        | .ok b => Leads o ((f b).play setup) s' w' F
        | .error e => F (.error e) s' w' := by
  rw [Act.play, ExceptT.run_bind, Program.handle_bind, leads_bind]
  refine iff_of_eq (congrArg _ ?_)
  funext r s' w'
  cases r with
  | ok b => rfl
  | error e => exact propext (leads_pure (Except.error e))

@[simp] theorem leads_play_move (m : Move) {F : Except Mishap m.Answer → Session → World σ → Prop} :
    Leads o (Act.play setup (Act.move m)) s w F ↔
      Leads o (m.play setup) s w fun x => F (.ok x) := by
  have hmove : Act.play setup (Act.move m) = m.play setup >>= fun x => pure (Except.ok x) := rfl
  rw [hmove, leads_bind]
  simp only [leads_pure]

@[simp] theorem leads_play_say (r : Remark)
    {F : Except Mishap Unit → Session → World σ → Prop} :
    Leads o (Act.play setup (Act.say r)) s w F ↔ F (.ok ()) s (w.say r) :=
  (leads_play_move (.say r)).trans ((leads_ofWorker _).trans (World.leads_say r))

end Acts

/-! ## Parts of events and of traversals -/

section Parts

variable {F : Except Mishap α → Session → World σ → Prop}
  {D : Except Failure α → Session → World σ → Prop}
  {J : Except Error α → Session → World σ → Prop}

@[simp] theorem leads_passage_ofWorker (p : Worker α) :
    Leads o (Passage.ofWorker p).run s w F ↔ w.Leads o p fun a w' => F (.ok a) s w' := by
  simp [Passage.ofWorker]

@[simp] theorem leads_passage_tell (st : Stage)
    {F : Except Mishap Unit → Session → World σ → Prop} :
    Leads o (Passage.tell st).run s w F ↔ F (.ok ()) s (w.tell (.stage st)) := by
  simp [Passage.tell]

@[simp] theorem leads_passage_extend (d : Duration)
    {F : Except Mishap Unit → Session → World σ → Prop} :
    Leads o (Passage.extend d).run s w F ↔ F (.ok ()) s (w.extend d) := by
  simp [Passage.extend]

@[simp] theorem leads_detour_ofPassage (p : Passage α) :
    Leads o (Detour.ofPassage p).run s w D ↔
      Leads o p.run s w fun r => D (r.mapError .own) := by
  rw [Detour.ofPassage, leads_run_mk, leads_map]

@[simp] theorem leads_detour_ofWorker (p : Worker α) :
    Leads o (Detour.ofWorker p).run s w D ↔ w.Leads o p fun a w' => D (.ok a) s w' := by
  simp [Detour.ofWorker]

@[simp] theorem leads_within (j : Journey α)
    {D : Except Failure (Except Error α) → Session → World σ → Prop} :
    Leads o (Detour.within j).run s w D ↔ Leads o j.run s w fun r => D (.ok r) := by
  simp [Detour.within]

@[simp] theorem leads_journey_ofWorker (p : Worker α) :
    Leads o (Journey.ofWorker p).run s w J ↔ w.Leads o p fun a w' => J (.ok a) s w' := by
  simp [Journey.ofWorker]

@[simp] theorem leads_journey_tell (st : Stage)
    {J : Except Error Unit → Session → World σ → Prop} :
    Leads o (Journey.tell st).run s w J ↔ J (.ok ()) s (w.tell (.stage st)) := by
  simp [Journey.tell]

@[simp] theorem leads_journey_say (r : Remark)
    {J : Except Error Unit → Session → World σ → Prop} :
    Leads o (Journey.say r).run s w J ↔ J (.ok ()) s (w.say r) := by
  simp [Journey.say]

@[simp] theorem leads_journey_pulse {J : Except Error Unit → Session → World σ → Prop} :
    Leads o Journey.pulse.run s w J ↔ J (.ok ()) s w.pulse := by
  simp [Journey.pulse]

@[simp] theorem leads_attempt (p : ExceptT ε Stretch α)
    {J : Except Error (Except ε α) → Session → World σ → Prop} :
    Leads o (Journey.attempt p).run s w J ↔ Leads o p.run s w fun r => J (.ok r) := by
  simp [Journey.attempt]

end Parts

end Stretch
end PageScript
