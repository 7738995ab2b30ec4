import PageScript.Proofs.CarriedOut

/-!
# How a traversal ends

A traversal comes to its end, or it is ended by the loss of the browser. The event that loses the
browser tells of it and reports it; the events around it unwind one after another, and none of them
reports anything more. `Unwinds` gathers what there is to show at each stage of an invariant that
tells these two ends apart, and that may depend on the events that are under way. The traversal then
comes to one of its two ends, at every depth, by induction on how deeply scripts include each other
and on the events; and whichever it comes to, the scopes of variables are as many as they were.
-/

namespace PageScript

variable {σ α β ε : Type} {o : Outside σ} {setup : Setup} {s s' : Session} {w w' : World σ}

/-- Every end of a part of a run that may end early is as said, be it with a result or not. -/
def Stretch.Ends (o : Outside σ) (m : ExceptT ε Stretch α) (s : Session) (w : World σ)
    (Q : α → Session → World σ → Prop) (E : ε → Session → World σ → Prop) : Prop :=
  Leads o m.run s w fun r s' w' =>
    match r with
    | .ok a => Q a s' w'
    | .error e => E e s' w'

namespace Stretch

variable {Q : α → Session → World σ → Prop} {E : ε → Session → World σ → Prop}

theorem Ends.mono {m : ExceptT ε Stretch α} {R : α → Session → World σ → Prop}
    {F : ε → Session → World σ → Prop} (h : Ends o m s w R F)
    (hQ : ∀ a s' w', R a s' w' → Q a s' w') (hE : ∀ e s' w', F e s' w' → E e s' w') :
    Ends o m s w Q E := by
  refine Leads.mono h fun r s' w' hr => ?_
  cases r with
  | ok a => exact hQ a s' w' hr
  | error e => exact hE e s' w' hr

theorem Ends.bind {m : ExceptT ε Stretch β} {f : β → ExceptT ε Stretch α}
    {R : β → Session → World σ → Prop} (h : Ends o m s w R E)
    (hnext : ∀ b s' w', R b s' w' → Ends o (f b) s' w' Q E) : Ends o (m >>= f) s w Q E := by
  unfold Ends
  rw [leads_run_bind]
  refine Leads.mono h fun r s' w' hr => ?_
  cases r with
  | ok b => exact hnext b s' w' hr
  | error e => exact hr

theorem ends_pure {a : α} (h : Q a s w) : Ends o (pure a : ExceptT ε Stretch α) s w Q E :=
  leads_run_pure a |>.2 h

theorem ends_throw {e : ε} (h : E e s w) : Ends o (throw e : ExceptT ε Stretch α) s w Q E :=
  leads_run_throw e |>.2 h

end Stretch

/-! ## Acts and events that heed the loss -/

/-- What moves keep that do not report the loss is kept by an act that heeds it; and if the act says
that the browser is lost, then some answer has said so. -/
theorem Act.Heeds.ends {P : World σ → Prop} {a : Act α} (ha : a.Heeds)
    (hmove : ∀ {s w} (m : Move), m.Tame → P w →
      Stretch.Leads o (m.play setup) s w fun _ _ w' => P w')
    (h : P w) : Stretch.Ends o (Passage.act setup a) s w (fun _ _ => P)
      fun m _ w' => P w' ∧ ∀ e, m = .lost e → e.isLoss = true := by
  unfold Act.Heeds at ha
  unfold Stretch.Ends Passage.act Act.play
  rw [Stretch.leads_run_mk]
  generalize a.run = p at ha
  induction p generalizing s w with
  | done r =>
    refine Stretch.leads_pure r |>.2 ?_
    cases r with
    | ok _ => exact h
    | error m => exact ⟨h, fun e heq => absurd (congrArg Except.error heq) (ha e)⟩
  | ask m next ih =>
    rw [Program.handle, Stretch.leads_bind]
    refine (hmove m ha.1 h).mono fun x s' w' h' => ?_
    cases hloss : m.loss? x with
    | none => exact ih x h' ((ha.2 x).2 hloss)
    | some e =>
      -- the answer says so, and then the act is over
      rw [(ha.2 x).1 e hloss]
      refine Stretch.leads_pure _ |>.2 ⟨h', fun e' heq => ?_⟩
      cases heq
      exact Move.isLoss_of_loss? hloss

theorem Passage.Heeds.ends {P : World σ → Prop} {p : Passage α} (hp : p.Heeds setup)
    (hmove : ∀ {s w} (m : Move), m.Tame → P w →
      Stretch.Leads o (m.play setup) s w fun _ _ w' => P w')
    (hextend : ∀ {w} d, P w → P (w.extend d)) (h : P w) :
    Stretch.Ends o p s w (fun _ _ => P)
      fun m _ w' => P w' ∧ ∀ e, m = .lost e → e.isLoss = true := by
  induction hp generalizing s w with
  | pure a => exact Stretch.ends_pure h
  | act ha => exact ha.ends hmove h
  | extend d => exact Stretch.leads_passage_extend d |>.2 (hextend d h)
  | bind _ _ ihp ihf => exact (ihp h).bind fun b _ _ h' => ihf b h'

/-! ## Traversals -/

/-- An event tells that it has lost the browser, and reports it. -/
def World.lose (event : Event) (e : Error) (w : World σ) : World σ :=
  (w.tell (.stage (.failed event (.lost e)))).say (.exception "Browser session lost" e)

/-- What holds where an event fails: the loss of the browser is still to be told of, or an event
within it has told of it, or else the traversal goes on. -/
def Failure.Meets (P : World σ → Prop) (E : Error → World σ → Prop) (event : Event) :
    Failure → World σ → Prop
  | .lost e, w => E e (w.lose event e)
  | .halted e, w => E e w
  | _, w => P w

/-- What holds of the world at each stage of a traversal: `P` while it goes on, and `E` once it has
been ended by an error; both may depend on the events that are under way, the innermost first. -/
structure Unwinds (setup : Setup) (o : Outside σ) (P : List Event → World σ → Prop)
    (E : List Event → Error → World σ → Prop) : Prop where
  say : ∀ {way w} r, r.Tame → P way w → P way (w.say r)
  /-- The query for the window in use, before the first event. -/
  query : ∀ {way w}, P way w →
    w.Leads o (Worker.call (.untilStop none) .currentWindow) fun _ w' => P way w'
  fire : ∀ {way w} {s : Session} {occasion : Occasion}, occasion.phase ≠ .afterTest → P way w →
    w.Leads o (s.fire setup occasion) fun _ w' => P way w'
  /-- An event starts, which is a sign of progress, and is carried out. -/
  opens : ∀ {way w s} event parent, w.isStopped = false → P way w →
    Stretch.Ends o (Passage.openEvent setup event parent) s
      (w.tell (.stage (.started event parent))).pulse (fun _ _ => P (event :: way))
      fun m _ => (Failure.own m).Meets (P (event :: way)) (E (event :: way)) event
  restores : ∀ {way w s} event r, P (event :: way) w →
    Stretch.Ends o (Passage.restore setup r) s w (fun _ _ => P (event :: way))
      fun m _ => (Failure.own m).Meets (P (event :: way)) (E (event :: way)) event
  fails : ∀ {way w} event m, (∀ e, m ≠ .lost e) → P (event :: way) w →
    P (event :: way) (w.tell (.stage (.failed event (.own m))))
  halts : ∀ {way w} event e, E (event :: way) e w →
    E (event :: way) e (w.tell (.stage (.failed event (.halted e))))
  /-- An event that has been ended leaves those around it. -/
  leaves : ∀ {way w event e}, E (event :: way) e w → E way e w
  /-- An event finishes, which is a sign of progress. -/
  finishes : ∀ {way w} event element, P (event :: way) w →
    P way (w.pulse.tell (.stage (.finished event element)))
  rows : ∀ {way w} cells, w.isStopped = false → P way w → P way (w.tell (.stage (.row cells)))

/-- Part of a traversal that comes to one of its two ends, with the scopes as many as they were. -/
def Journey.Unwinds (o : Outside σ) (j : Journey Unit) (P : World σ → Prop)
    (E : Error → World σ → Prop) : Prop :=
  ∀ s w, P w → Stretch.Ends o j s w (fun _ s' w' => s.Steady s' ∧ P w')
    fun e s' w' => s.Steady s' ∧ E e w'

namespace Unwinds

open Stretch

variable {P : List Event → World σ → Prop} {E : List Event → Error → World σ → Prop}
  {way : List Event} {event : Event} {parent : Option Element}
  {follow : List Event → Option Element → Journey Unit} {inside children : Journey Unit}
  {below : Option Element → Journey Unit}

/-- The scopes of variables stay as many as they were while an event is opened. -/
theorem steady_openEvent : Leads o (Passage.openEvent setup event parent).run s
    (w.tell (.stage (.started event parent))).pulse fun _ s' _ => s.Steady s' :=
  (visits_openEvent event parent).mono fun _ _ _ h => h.1

theorem steady_restore (r : Restore) :
    Leads o (Passage.restore setup r).run s w fun _ s' _ => s.Steady s' := by
  cases r with
  | nothing => exact leads_run_pure () |>.2 (.refl s)
  | defaultContent => exact (unvisited_act _).mono fun _ _ _ h => h.steady
  | window handle => exact (unvisited_act _).mono fun _ _ _ h => h.steady

/-- A part of an event keeps the scopes of variables besides what else holds at its ends. -/
theorem ends_steady {m : ExceptT ε Stretch α} {Q : α → World σ → Prop} {F : ε → World σ → Prop}
    (hsteady : Leads o m.run s w fun _ s' _ => s.Steady s')
    (h : Ends o m s w (fun a _ => Q a) fun e _ => F e) :
    Ends o m s w (fun a s' w' => s.Steady s' ∧ Q a w') fun e s' w' => s.Steady s' ∧ F e w' := by
  refine (hsteady.and h).mono fun r s' w' hr => ?_
  cases r <;> exact hr

theorem ends_of_steady {m : ExceptT ε Stretch α} {Q : α → World σ → Prop}
    {F : ε → World σ → Prop} (hsteady : s.Steady s')
    (h : Ends o m s' w (fun a s'' w' => s'.Steady s'' ∧ Q a w')
      fun e s'' w' => s'.Steady s'' ∧ F e w') :
    Ends o m s' w (fun a s'' w' => s.Steady s'' ∧ Q a w')
      fun e s'' w' => s.Steady s'' ∧ F e w' := by
  refine h.mono ?_ ?_
  · rintro a s'' w' ⟨hsteady', hQ⟩
    exact ⟨hsteady.trans hsteady', hQ⟩
  · rintro e s'' w' ⟨hsteady', hF⟩
    exact ⟨hsteady.trans hsteady', hF⟩

/-! ## Rows and included scripts -/

/-- A detour ends early only where the traversal has been ended within it. -/
def Halts (E : Error → World σ → Prop) (s : Session) : Failure → Session → World σ → Prop :=
  fun f s' w' => ∃ e, f = .halted e ∧ s.Steady s' ∧ E e w'

theorem Halts.of_steady {F : Error → World σ → Prop} {f : Failure} {s'' : Session}
    (h : Halts F s' f s'' w) (hsteady : s.Steady s') : Halts F s f s'' w := by
  obtain ⟨e, rfl, hsteady', hE⟩ := h
  exact ⟨e, rfl, hsteady.trans hsteady', hE⟩

theorem ends_orHalt {R : World σ → Prop} {F : Error → World σ → Prop} {result : Except Error Unit}
    (hsteady : s.Steady s')
    (h : match result with
      | .ok _ => R w
      | .error e => F e w) :
    Ends o (Detour.orHalt result) s' w (fun _ s' w' => s.Steady s' ∧ R w') (Halts F s) := by
  cases result with
  | ok _ => exact ends_pure ⟨hsteady, h⟩
  | error e => exact ends_throw ⟨e, rfl, hsteady, h⟩

/-- A scope that has been entered is left again, whatever the children came to. -/
theorem ends_leaveRow {F : Failure → Session → World σ → Prop}
    (h : s.vars.push.SameShape s'.vars) :
    Ends o Detour.leaveRow s' w (fun _ s'' w' => s.Steady s'' ∧ w' = w) F := by
  obtain ⟨vars, hpop, hsame⟩ := h.pop
  unfold Ends
  rw [Detour.leaveRow, leads_run_bind, leads_run_get]
  dsimp only
  rw [hpop]
  exact leads_run_modify _ |>.2 ⟨hsame, rfl⟩

theorem forRows (hu : Unwinds setup o P E) (hchildren : children.Unwinds o (P way) (E way))
    (rows : List Row) (h : P way w) :
    Ends o (Detour.forRows children rows) s w (fun _ s' w' => s.Steady s' ∧ P way w')
      (Halts (E way) s) := by
  induction rows generalizing s w with
  | nil => exact ends_pure ⟨.refl s, h⟩
  | cons cells rows ih =>
    unfold Ends
    rw [Detour.forRows, leads_run_bind, leads_detour_ofWorker, World.leads_isStopped]
    dsimp only
    split
    · exact leads_run_pure _ |>.2 ⟨.refl s, h⟩
    rename_i hstop
    have hrow := hu.rows cells (Bool.eq_false_iff.2 hstop) h
    have hentered := s.steady_enterRow cells
    simp only [Detour.enterRow, leads_run_bind, leads_detour_ofWorker, World.leads_tell,
      leads_run_modify, leads_within]
    refine Leads.mono (hchildren _ _ hrow) fun result s₁ w₁ hresult => ?_
    have hshape : s.vars.push.SameShape s₁.vars := by
      cases result <;> exact hentered.trans hresult.1
    refine Leads.mono (ends_leaveRow (F := Halts (E way) s) hshape) fun left s₂ w₂ hleft => ?_
    cases left with
    | error f => exact hleft
    | ok _ =>
      obtain ⟨hsteady, rfl⟩ := hleft
      have hhalt : Ends o (Detour.orHalt result) s₂ w₂
          (fun _ s' w' => s.Steady s' ∧ P way w') (Halts (E way) s) := by
        refine ends_orHalt hsteady ?_
        cases result <;> exact hresult.2
      refine Leads.mono hhalt fun halted s₃ w₃ hhalted => ?_
      cases halted with
      | error f => exact hhalted
      | ok _ =>
        exact (ih hhalted.2).mono (fun _ _ _ h' => ⟨hhalted.1.trans h'.1, h'.2⟩)
          fun _ _ _ h' => h'.of_steady hhalted.1

theorem followInner (hu : Unwinds setup o P E)
    (hfollow : ∀ events parent, (follow events parent).Unwinds o (P way) (E way))
    (hinside : inside.Unwinds o (P way) (E way)) (parent : Option Element) (inner : Inner)
    (h : P way w) : Ends o (Detour.followInner follow inside parent inner) s w
      (fun _ s' w' => s.Steady s' ∧ P way w') (Halts (E way) s) := by
  cases inner with
  | nothing => exact ends_pure ⟨.refl s, h⟩
  | rows rows => exact hu.forRows hinside rows h
  | events events =>
    unfold Ends
    rw [Detour.followInner, leads_run_bind, leads_within]
    refine Leads.mono (hfollow events parent s w h) fun result s' w' hresult => ?_
    refine ends_orHalt ?_ ?_ <;> cases result <;> first | exact hresult.1 | exact hresult.2

/-! ## One event -/

theorem opening (hu : Unwinds setup o P E)
    (hfollow : ∀ events parent,
      (follow events parent).Unwinds o (P (event :: way)) (E (event :: way)))
    (hinside : inside.Unwinds o (P (event :: way)) (E (event :: way)))
    (hstop : w.isStopped = false) (h : P way w) :
    Ends o (Detour.opening setup follow inside event parent) s
      (w.tell (.stage (.started event parent))).pulse
      (fun _ s' w' => s.Steady s' ∧ P (event :: way) w')
      fun f s' w' => s.Steady s' ∧ f.Meets (P (event :: way)) (E (event :: way)) event w' := by
  have hopened : Ends o (Detour.ofPassage (Passage.openEvent setup event parent)) s
      (w.tell (.stage (.started event parent))).pulse
      (fun _ s' w' => s.Steady s' ∧ P (event :: way) w')
      fun f s' w' => s.Steady s' ∧ f.Meets (P (event :: way)) (E (event :: way)) event w' := by
    refine leads_detour_ofPassage _ |>.2 ?_
    refine Leads.mono (ends_steady steady_openEvent (hu.opens event parent hstop h)) ?_
    intro r _ _ hr
    cases r <;> exact hr
  rw [Detour.opening]
  refine hopened.bind fun opened s₁ w₁ hopened => ?_
  have hinner := hu.followInner (s := s₁) hfollow hinside parent opened.inner hopened.2
  refine (hinner.mono (fun _ _ _ h' => ⟨hopened.1.trans h'.1, h'.2⟩) ?_).bind
    fun _ _ _ h' => ends_pure h'
  rintro _ s₂ w₂ ⟨e, rfl, hsteady, hE⟩
  exact ⟨hopened.1.trans hsteady, hE⟩

theorem report (hu : Unwinds setup o P E) (event : Event) (failure : Failure)
    (h : failure.Meets (P (event :: way)) (E (event :: way)) event w) :
    Ends o (Journey.report event failure) s w
      (fun _ s' w' => s.Steady s' ∧ P (event :: way) w')
      fun e s' w' => s.Steady s' ∧ E (event :: way) e w' := by
  unfold Ends Journey.report
  rw [leads_run_bind, leads_journey_tell]
  cases failure with
  | halted e => exact leads_run_throw e |>.2 ⟨.refl s, hu.halts event e h⟩
  | own m =>
    cases m with
    | abort =>
      have hfailed := hu.fails event .abort (fun _ heq => by cases heq) h
      exact leads_journey_say _ |>.2 ⟨.refl s, hu.say _ (fun _ heq => by cases heq) hfailed⟩
    | hidden =>
      have hfailed := hu.fails event .hidden (fun _ heq => by cases heq) h
      dsimp only
      split <;>
        exact leads_journey_say _ |>.2 ⟨.refl s, hu.say _ (fun _ heq => by cases heq) hfailed⟩
    | fault e =>
      have hfailed := hu.fails event (.fault e) (fun _ heq => by cases heq) h
      exact leads_journey_say _ |>.2
        ⟨.refl s, hu.say _ (Remark.tame_exception (by simp) e) hfailed⟩
    | lost e =>
      dsimp only
      rw [leads_run_bind, leads_journey_say]
      exact leads_run_throw e |>.2 ⟨.refl s, h⟩

theorem leave (hu : Unwinds setup o P E) (event : Event) (r : Restore) (h : P (event :: way) w) :
    Ends o (Journey.leave setup event r) s w (fun _ s' w' => s.Steady s' ∧ P (event :: way) w')
      fun e s' w' => s.Steady s' ∧ E (event :: way) e w' := by
  unfold Ends
  rw [Journey.leave, leads_run_bind, leads_attempt]
  refine Leads.mono (ends_steady (steady_restore r) (hu.restores event r h)) fun result s' w' h' => ?_
  cases result with
  | ok _ => exact ends_pure h'
  | error m => exact ends_of_steady h'.1 (hu.report event (.own m) h'.2)

theorem descend (hu : Unwinds setup o P E)
    (hbelow : ∀ element, (below element).Unwinds o (P (event :: way)) (E (event :: way)))
    (result : Except Failure Opened)
    (h : match result with
      | .ok _ => P (event :: way) w
      | .error f => f.Meets (P (event :: way)) (E (event :: way)) event w) :
    Ends o (Journey.descend setup below event result) s w
      (fun _ s' w' => s.Steady s' ∧ P (event :: way) w')
      fun e s' w' => s.Steady s' ∧ E (event :: way) e w' := by
  cases result with
  | error failure =>
    rw [Journey.descend]
    exact (hu.report event failure h).bind fun _ _ _ h' => ends_pure h'
  | ok opened =>
    have hleave (s : Session) (w : World σ) (h : P (event :: way) w) : Ends o (do
        Journey.leave setup event opened.restore
        return opened.element : Journey (Option Element)) s w
        (fun _ s' w' => s.Steady s' ∧ P (event :: way) w')
        fun e s' w' => s.Steady s' ∧ E (event :: way) e w' :=
      (hu.leave event opened.restore h).bind fun _ _ _ h' => ends_pure h'
    rw [Journey.descend]
    split
    · refine (hbelow opened.element s w h).bind fun _ s' w' h' => ?_
      exact ends_of_steady h'.1 (hleave s' w' h'.2)
    · exact hleave s w h

theorem finish (hu : Unwinds setup o P E) (event : Event) (element : Option Element)
    {F : Error → Session → World σ → Prop} (h : P (event :: way) w) :
    Ends o (Journey.finish setup event element) s w (fun _ s' w' => s.Steady s' ∧ P way w')
      F := by
  unfold Ends
  simp only [Journey.finish, leads_run_bind, leads_journey_pulse, leads_journey_tell,
    leads_run_lift, leads_fire]
  exact (hu.fire (by simp) (hu.finishes event element h)).mono fun _ _ h' => ⟨.refl s, h'⟩

/-- **An event comes to one of its two ends**, with all that belongs to it. -/
theorem runEvent (hu : Unwinds setup o P E)
    (hfollow : ∀ events parent,
      (follow events parent).Unwinds o (P (event :: way)) (E (event :: way)))
    (hinside : inside.Unwinds o (P (event :: way)) (E (event :: way)))
    (hbelow : ∀ element, (below element).Unwinds o (P (event :: way)) (E (event :: way)))
    (hstop : w.isStopped = false) (h : P way w) :
    Ends o (Journey.runEvent setup follow inside below event parent) s w
      (fun _ s' w' => s.Steady s' ∧ P way w') fun e s' w' => s.Steady s' ∧ E way e w' := by
  unfold Ends
  simp only [Journey.runEvent, leads_run_bind, leads_journey_tell, leads_journey_pulse,
    leads_attempt]
  refine Leads.mono (hu.opening hfollow hinside hstop h) fun result s₁ w₁ h₁ => ?_
  have hdescend : Ends o (Journey.descend setup below event result) s₁ w₁
      (fun _ s' w' => s.Steady s' ∧ P (event :: way) w')
      fun e s' w' => s.Steady s' ∧ E (event :: way) e w' := by
    have hsteady : s.Steady s₁ := by cases result <;> exact h₁.1
    refine ends_of_steady hsteady (hu.descend hbelow result ?_)
    cases result <;> exact h₁.2
  refine Leads.mono hdescend fun r s₂ w₂ h₂ => ?_
  cases r with
  | error e => exact ⟨h₂.1, hu.leaves h₂.2⟩
  | ok element =>
    exact ends_of_steady h₂.1 (hu.finish event element h₂.2)

/-! ## Lists of events -/

mutual

theorem visitOne (hu : Unwinds setup o P E)
    (hfollow : ∀ way events parent, (follow events parent).Unwinds o (P way) (E way))
    (way : List Event) (event : Event) (parent : Option Element) (s : Session) (w : World σ)
    (hstop : w.isStopped = false) (h : P way w) :
    Ends o (Journey.visitOne setup follow event parent) s w
      (fun _ s' w' => s.Steady s' ∧ P way w') fun e s' w' => s.Steady s' ∧ E way e w' :=
  match event with
  | ⟨_, _, _, _, _, _, children⟩ => by
    rw [Journey.visitOne]
    exact hu.runEvent (hfollow _) (hu.visitAll hfollow _ children parent)
      (hu.visitAll hfollow _ children) hstop h

theorem visitAll (hu : Unwinds setup o P E)
    (hfollow : ∀ way events parent, (follow events parent).Unwinds o (P way) (E way))
    (way : List Event) (events : List Event) (parent : Option Element) :
    (Journey.visitAll setup follow events parent).Unwinds o (P way) (E way) :=
  match events with
  | [] => fun s w h => by
    rw [Journey.visitAll]
    exact ends_pure ⟨.refl s, h⟩
  | event :: events => fun s w h => by
    unfold Ends
    rw [Journey.visitAll, leads_run_bind, leads_journey_ofWorker, World.leads_isStopped]
    dsimp only
    split
    · exact leads_journey_say _ |>.2 ⟨.refl s, hu.say _ (fun _ heq => by cases heq) h⟩
    · rename_i hstop
      have hone := hu.visitOne hfollow way event parent s w (Bool.eq_false_iff.2 hstop) h
      refine hone.bind fun _ s' w' h' => ?_
      exact ends_of_steady h'.1 (hu.visitAll hfollow way events parent s' w' h'.2)

end

/-- **A traversal comes to one of its two ends**, however deeply scripts include each other. -/
theorem visit (hu : Unwinds setup o P E) (depth : Nat) (way : List Event) (events : List Event)
    (parent : Option Element) :
    (Journey.visit setup depth events parent).Unwinds o (P way) (E way) := by
  induction depth generalizing way events parent with
  | zero => exact fun s w _ => leads_journey_ofWorker _ |>.2 World.leads_giveUp
  | succ depth ih => exact hu.visitAll ih way events parent

/-- All that comes before the plugins at the end of a test comes to one of the two ends. -/
theorem main (hu : Unwinds setup o P E) (events : List Event) (h : P [] w) :
    Leads o (Journey.main setup events) s w fun r s' w' => s.Steady s' ∧
      match r with
      | .ok _ => P [] w'
      | .error e => E [] e w' := by
  have hwindow : Leads o Journey.noteWindow s w fun _ s' w' => s.Steady s' ∧ P [] w' := by
    rw [Journey.noteWindow, leads_bind, leads_ofWorker]
    refine (hu.query h).mono fun result w' h' => ?_
    rcases result with _ | _ | handle
    · exact leads_pure () |>.2 ⟨.refl s, h'⟩
    · exact leads_pure () |>.2 ⟨.refl s, h'⟩
    · exact leads_modify _ |>.2 ⟨s.steady_edit _, h'⟩
  rw [Journey.main, leads_bind]
  refine hwindow.mono fun _ s₁ w₁ h₁ => ?_
  rw [leads_bind, leads_fire]
  refine (hu.fire (by simp) h₁.2).mono fun _ w₂ h₂ => ?_
  have hvisit := ends_of_steady h₁.1 (hu.visit setup.nesting [] events none s₁ w₂ h₂)
  refine Leads.mono hvisit fun r s₃ w₃ h₃ => ?_
  cases r <;> exact h₃

end Unwinds
end PageScript
