import PageScript.Proofs.ActCalls
import PageScript.Proofs.ActInvariants

/-!
# Acts that follow a plan

A plan is a list of calls of the browser. An act that follows it makes these calls one after another
and no others, up to the first one that fails, or up to where the run is stopped. Which calls there
are may depend on what is answered on the way, so a plan is given what has been exchanged.

A part of a plan fares as the whole of it does; `Act.Plans.then` puts the plans of two acts together.
-/

namespace PageScript

variable {σ α β : Type} {o : Outside σ} {setup : Setup} {w w' w'' : World σ}

/-! ## Exchanges with the browser -/

/-- A call, and what has been answered; nothing where the call has been given up. -/
structure Exchange where
  call : Call
  reply : Option (Except BrowserError call.Answer)

/-- A call that answers an alert. -/
inductive Call.AnswersAlert : Call → Prop where
  | accept : AnswersAlert .acceptAlert
  | dismiss : AnswersAlert .dismissAlert

namespace Exchange

/-- A call comes off if it is answered without an error; a missing alert is no failure of the call
that is to answer it. -/
inductive ComesOff : Exchange → Prop where
  | answered {c : Call} (x : c.Answer) : ComesOff ⟨c, some (.ok x)⟩
  | noAlert {c : Call} : c.AnswersAlert → ComesOff ⟨c, some (.error .noAlert)⟩

end Exchange

open Exchange

namespace World

/-- The browser is left alone. -/
structure Quiet (w w' : World σ) : Prop where
  calls_eq : calls w'.history = calls w.history
  outside_eq : w'.outside = w.outside

theorem Quiet.refl (w : World σ) : w.Quiet w := ⟨rfl, rfl⟩

theorem Quiet.trans (h : w.Quiet w') (h' : w'.Quiet w'') : w.Quiet w'' :=
  ⟨h'.calls_eq.trans h.calls_eq, h'.outside_eq.trans h.outside_eq⟩

theorem quiet_tell (w : World σ) (n : Notice) : w.Quiet (w.tell n) :=
  ⟨calls_notice n, rfl⟩

/-- A call is made, and it is answered, or it is given up because the run is stopped. -/
inductive Exchanges (o : Outside σ) (w : World σ) : Exchange → World σ → Prop where
  | answered {c : Call} {x : Except BrowserError c.Answer} {w' : World σ} : w.Called o c x w' →
      Exchanges o w ⟨c, some x⟩ w'
  | givenUp {c : Call} {w' : World σ} : w'.isStopped = true →
      (w.happen (.called c)).Adds (Happening.Ambient fun _ => True) w' →
      Exchanges o w ⟨c, none⟩ w'

/-- These calls are made, one after another, and no others. -/
inductive Talks (o : Outside σ) : World σ → List Exchange → World σ → Prop where
  | nil {w w' : World σ} : w.Quiet w' → Talks o w [] w'
  | cons {w asked seen w' : World σ} {x : Exchange} {log : List Exchange} : w.Quiet asked →
      asked.Exchanges o x seen → Talks o seen log w' → Talks o w (x :: log) w'

variable {log log' : List Exchange}

theorem Exchanges.calls_eq {x : Exchange} (h : w.Exchanges o x w') :
    calls w'.history = calls w.history ++ [x.call] := by
  cases h with
  | answered hcalled => exact hcalled.calls_eq
  | givenUp _ hadds => exact hadds.calls_eq.trans (calls_called _)

theorem Exchanges.talks {x : Exchange} (h : w.Exchanges o x w') : w.Talks o [x] w' :=
  .cons (.refl w) h (.nil (.refl w'))

/-- The history tells of these calls. -/
theorem Talks.calls_eq (h : w.Talks o log w') :
    calls w'.history = calls w.history ++ log.map (·.call) := by
  induction h with
  | nil hquiet => rw [hquiet.calls_eq, List.map_nil, List.append_nil]
  | cons hquiet hexchanges _ ih =>
    rw [ih, hexchanges.calls_eq, hquiet.calls_eq, List.append_assoc]
    rfl

theorem Quiet.talks (h : w.Quiet w') (h' : w'.Talks o log w'') : w.Talks o log w'' := by
  cases h' with
  | nil hquiet => exact .nil (h.trans hquiet)
  | cons hquiet hexchanges hlater => exact .cons (h.trans hquiet) hexchanges hlater

theorem Talks.trans (h : w.Talks o log w') (h' : w'.Talks o log' w'') :
    w.Talks o (log ++ log') w'' := by
  induction h with
  | nil hquiet => exact hquiet.talks h'
  | cons hquiet hexchanges _ ih => exact .cons hquiet hexchanges (ih h')

end World

/-! ## Plans -/

/-- Every call of a plan has been made, and has come off. -/
def Whole (plan : List Call) (log : List Exchange) : Prop :=
  log.map (·.call) = plan ∧ ∀ x ∈ log, x.ComesOff

/-- How a plan fares: which calls are made and what comes of them, and the end of the part of the event
that the plan is of. -/
inductive Fares (plan : List Call) (stopped : Bool) :
    List Exchange → Except Mishap Unit → Prop where
  /-- It is carried out as a whole. -/
  | whole {log : List Exchange} : Whole plan log → Fares plan stopped log (.ok ())
  /-- A call fails, and those after it are not made. -/
  | failed (log : List Exchange) {c : Call} {e : BrowserError} {rest : List Call} :
      log.map (·.call) ++ c :: rest = plan → (∀ x ∈ log, x.ComesOff) →
      ¬ ComesOff ⟨c, some (.error e)⟩ →
      Fares plan stopped (log ++ [⟨c, some (.error e)⟩]) (.error (.ofBrowser e))
  /-- The run is stopped while a call is under way. -/
  | givenUp (log : List Exchange) {c : Call} {rest : List Call} : stopped = true →
      log.map (·.call) ++ c :: rest = plan → (∀ x ∈ log, x.ComesOff) →
      Fares plan stopped (log ++ [⟨c, none⟩]) (.error .abort)
  /-- The run has been stopped before the next call. -/
  | leftOut (log : List Exchange) {c : Call} {rest : List Call} : stopped = true →
      log.map (·.call) ++ c :: rest = plan → (∀ x ∈ log, x.ComesOff) →
      Fares plan stopped log (.error .abort)

namespace Fares

variable {plan plan' : List Call} {stopped stopped' : Bool} {log log' : List Exchange}
  {r : Except Mishap Unit} {m : Mishap}

/-- **The calls that are made are the first ones of the plan.** -/
theorem prefix_plan (h : Fares plan stopped log r) : log.map (·.call) <+: plan := by
  cases h with
  | whole hwhole => exact ⟨[], by rw [List.append_nil, hwhole.1]⟩
  | @failed log c e rest hplan _ _ | @givenUp log c rest _ hplan _ =>
    refine ⟨rest, ?_⟩
    rw [List.map_append, List.append_assoc, ← hplan]
    rfl
  | leftOut _ _ hplan _ => exact ⟨_, hplan⟩

/-- The part succeeds if and only if its plan is carried out as a whole. -/
theorem ok_iff (h : Fares plan stopped log r) :
    r = .ok () ↔ Whole plan log := by
  constructor
  · rintro rfl
    cases h with
    | whole hwhole => exact hwhole
  · rintro ⟨hplan, hall⟩
    cases h with
    | whole _ => rfl
    | @failed log c e rest _ _ hfails =>
      exact absurd (hall _ (List.mem_append_right _ (List.mem_singleton_self _))) hfails
    | @givenUp log c rest _ _ _ =>
      cases hall _ (List.mem_append_right _ (List.mem_singleton_self _))
    | @leftOut _ c rest _ hplan' _ =>
      rw [hplan] at hplan'
      exact absurd (List.append_right_eq_self.1 hplan') (List.cons_ne_nil _ _)

/-- Unless a call fails or the run is stopped, the plan is carried out as a whole. -/
theorem whole_of_goes (h : Fares plan stopped log r) (hgoes : stopped = false)
    (hall : ∀ x ∈ log, x.ComesOff) : Whole plan log := by
  cases h with
  | whole hwhole => exact hwhole
  | failed _ _ _ hfails =>
    exact absurd (hall _ (List.mem_append_right _ (List.mem_singleton_self _))) hfails
  | givenUp _ hstop _ _ | leftOut _ hstop _ _ =>
    rw [hgoes] at hstop
    cases hstop

/-- Where a part of a plan is not carried out as a whole, what would come next does not matter. -/
theorem widen (h : Fares plan stopped log (.error m)) (rest : List Call) :
    Fares (plan ++ rest) stopped log (.error m) := by
  have hlonger {made later : List Call} {c : Call} (hplan : made ++ c :: later = plan) :
      made ++ c :: (later ++ rest) = plan ++ rest := by
    rw [← hplan, List.append_assoc, List.cons_append]
  cases h with
  | failed _ hplan hall hfails => exact .failed _ (hlonger hplan) hall hfails
  | givenUp _ hstop hplan hall => exact .givenUp _ hstop (hlonger hplan) hall
  | leftOut _ hstop hplan hall => exact .leftOut _ hstop (hlonger hplan) hall

/-- After a part that has been carried out as a whole the plan goes on with the next one. -/
theorem append (h : Fares plan stopped log (.ok ())) (h' : Fares plan' stopped' log' r) :
    Fares (plan ++ plan') stopped' (log ++ log') r := by
  obtain ⟨rfl, hall⟩ := h.ok_iff.1 rfl
  have hboth {made : List Exchange} (hmade : ∀ x ∈ made, x.ComesOff) :
      ∀ x ∈ log ++ made, x.ComesOff :=
    List.forall_mem_append.2 ⟨hall, hmade⟩
  have hlonger {made : List Exchange} {later : List Call}
      (hplan : made.map (·.call) ++ later = plan') :
      (log ++ made).map (·.call) ++ later = log.map (·.call) ++ plan' := by
    rw [List.map_append, List.append_assoc, hplan]
  cases h' with
  | whole hwhole =>
    refine .whole ⟨?_, hboth hwhole.2⟩
    rw [List.map_append, hwhole.1]
  | failed _ hplan hmade hfails =>
    rw [← List.append_assoc]
    exact .failed _ (hlonger hplan) (hboth hmade) hfails
  | givenUp _ hstop hplan hmade =>
    rw [← List.append_assoc]
    exact .givenUp _ hstop (hlonger hplan) (hboth hmade)
  | leftOut _ hstop hplan hmade => exact .leftOut _ hstop (hlonger hplan) (hboth hmade)

end Fares

/-! ## Acts that follow a plan -/

/-- The text of an action, with the variables put in. -/
def Event.filled? (setup : Setup) (event : Event) (vars : Vars) (name : String) : Option String :=
  (event.actions.text? name).map (substitute setup.hijacks vars)

namespace Act

open Stretch

/-- An act without a result follows a plan; where this is carried out as a whole, its end is as said. -/
def Plans (o : Outside σ) (setup : Setup) (a : Act Unit) (s : Session)
    (plan : List Exchange → List Call) (Q : List Exchange → Session → Prop) : Prop :=
  ∀ w : World σ, Leads o (a.play setup) s w fun r s' w' => ∃ log, w.Talks o log w' ∧
    Fares (plan log) w'.isStopped log r ∧ (r = .ok () → Q log s')

variable {s : Session} {a b : Act Unit} {plan plan' : List Exchange → List Call}
  {Q R : List Exchange → Session → Prop} {event : Event} {element : Element}

/-- Only the calls of the plan that may have been made matter. -/
theorem Plans.congr (h : Plans o setup a s plan R)
    (hplan : ∀ log, log.map (·.call) <+: plan log → plan' log = plan log)
    (hQ : ∀ log s', R log s' → log.map (·.call) = plan log → Q log s') :
    Plans o setup a s plan' Q := by
  refine fun w => (h w).mono ?_
  rintro r s' w' ⟨log, htalks, hfares, hR⟩
  refine ⟨log, htalks, ?_, fun hr => hQ log s' (hR hr) (hfares.ok_iff.1 hr).1⟩
  rw [hplan log hfares.prefix_plan]
  exact hfares

/-- One part after another: the first one is planned without regard to what comes after it. -/
theorem Plans.then (ha : Plans o setup a s plan R)
    (hplan : ∀ log s' log', R log s' → plan (log ++ log') = plan log)
    (hb : ∀ log s', log.map (·.call) = plan log → R log s' →
      Plans o setup b s' (fun log' => plan' (log ++ log')) fun log' => Q (log ++ log')) :
    Plans o setup (a >>= fun _ => b) s (fun log => plan log ++ plan' log) Q := by
  refine fun w => leads_play_bind a _ |>.2 ((ha w).mono ?_)
  rintro r s₁ w₁ ⟨log, htalks, hfares, hR⟩
  cases r with
  | error m => exact ⟨log, htalks, hfares.widen _, nofun⟩
  | ok _ =>
    have hmade := (hfares.ok_iff.1 rfl).1
    refine (hb log s₁ hmade (hR rfl) w₁).mono ?_
    rintro r s' w' ⟨log', htalks', hfares', hQ⟩
    refine ⟨log ++ log', htalks.trans htalks', ?_, hQ⟩
    have hboth := hfares.append hfares'
    rw [← hplan log s₁ log' (hR rfl)] at hboth
    exact hboth

theorem plans_pure (hQ : Q [] s) : Plans o setup (pure ()) s (fun _ => []) Q :=
  fun w => leads_play_pure () |>.2 ⟨[], .nil (.refl w), .whole ⟨rfl, nofun⟩, fun _ => hQ⟩

theorem plans_say (r : Remark) (h : Plans o setup a s plan Q) :
    Plans o setup (say r >>= fun _ => a) s plan Q := by
  refine fun w => leads_play_bind _ _ |>.2 (leads_play_say r |>.2 ((h (w.say r)).mono ?_))
  rintro _ s' w' ⟨log, htalks, hrest⟩
  exact ⟨log, (w.quiet_tell r.notice).talks htalks, hrest⟩

theorem plans_edit (e : Edit) (h : Plans o setup a (s.edit e) plan Q) :
    Plans o setup (edit e >>= fun _ => a) s plan Q :=
  fun w => leads_play_bind _ _ |>.2 (leads_play_move _ |>.2 (leads_modify _ |>.2 (h w)))

/-- A text is filled in with the variables as they stand. -/
theorem plans_fill {raw : String} {f : String → Act Unit}
    (h : Plans o setup (f (substitute setup.hijacks s.vars raw)) s plan Q) :
    Plans o setup (fill setup raw >>= f) s plan Q := by
  refine fun w => leads_play_bind _ _ |>.2 (leads_play_bind _ _ |>.2 ?_)
  exact leads_play_move _ |>.2 (leads_get.2 (leads_play_pure _ |>.2 (h w)))

theorem plans_action? {name : String} {f : Option String → Act Unit}
    (h : Plans o setup (f (event.filled? setup s.vars name)) s plan Q) :
    Plans o setup (action? setup event name >>= f) s plan Q := by
  unfold action? fill? at *
  unfold Event.filled? at h
  cases htext : event.actions.text? name with
  | none =>
    rw [htext] at h
    exact h
  | some raw =>
    rw [htext] at h
    rw [bind_assoc]
    exact plans_fill h

/-- Without plugins nothing is done around a click. -/
theorem plans_aroundClick (hs : s.registry = []) (side : Side) (h : Plans o setup a s plan Q) :
    Plans o setup (move (.aroundClick side event element) >>= fun _ => a) s plan Q := by
  have hempty : s.registry.isEmpty = true := by rw [hs]; rfl
  intro w
  rw [leads_play_bind, leads_play_move, Move.play, leads_fire, Session.leads_fire]
  split
  · exact h w
  · rw [Session.dispatch, if_pos hempty, World.leads_pure]
    refine (h _).mono ?_
    rintro _ s' w' ⟨log, htalks, hrest⟩
    exact ⟨log, (w.quiet_tell _).talks htalks, hrest⟩

/-- A call is answered, or it is given up or left out because the run is stopped. -/
theorem leads_play_attempt {c : Call} {w : World σ}
    {F : Except Mishap (Except BrowserError c.Answer) → Session → World σ → Prop}
    (hanswered : ∀ x w', w.Exchanges o ⟨c, some x⟩ w' → F (.ok x) s w')
    (hgivenUp : ∀ w', w'.isStopped = true → w.Exchanges o ⟨c, none⟩ w' → F (.error .abort) s w')
    (hleftOut : w.isStopped = true → F (.error .abort) s w) :
    Leads o ((attempt c).play setup) s w F := by
  refine leads_play_bind _ _ |>.2 (leads_play_move _ |>.2 (leads_ofWorker _ |>.2 ?_))
  rw [World.leads_guarded]
  split
  · rename_i hstop
    exact leads_play_fail _ |>.2 (hleftOut (Bool.and_eq_true_iff.1 hstop).2)
  · rcases hres : w.step o (.untilStop none) (.act (.call c)) with ⟨cut | x, w'⟩
    · have hstop := World.isStopped_of_cut hres
      have helapses := World.elapses_step o (.untilStop none) w (.act (.call c))
      rw [hres] at helapses
      exact leads_play_fail _ |>.2
        (hgivenUp w' hstop (.givenUp hstop (helapses.mono fun _ _ => trivial).adds))
    · exact leads_play_pure _ |>.2 (hanswered x w' (.answered (World.called_of_step hres)))

/-- A call comes first; what is answered may matter to what comes next, unless the call fails. -/
theorem plans_attempt {c : Call} {f : Except BrowserError c.Answer → Act Unit}
    (hcomesOff : ∀ x, ComesOff ⟨c, some x⟩ → Plans o setup (f x) s
      (fun log => plan (⟨c, some x⟩ :: log)) fun log => Q (⟨c, some x⟩ :: log))
    (hfails : ∀ e, ¬ ComesOff ⟨c, some (.error e)⟩ → f (.error e) = fail (.ofBrowser e)) :
    Plans o setup (attempt c >>= f) s (fun log => c :: plan log) Q := by
  refine fun w => leads_play_bind _ _ |>.2 (leads_play_attempt ?_ ?_ ?_)
  · intro x w₁ hexchanges
    by_cases hoff : ComesOff ⟨c, some x⟩
    · refine (hcomesOff x hoff w₁).mono ?_
      rintro r s' w' ⟨log, htalks, hfares, hQ⟩
      have hfirst : Fares [c] false [⟨c, some x⟩] (.ok ()) :=
        .whole ⟨rfl, List.forall_mem_singleton.2 hoff⟩
      exact ⟨_ :: log, hexchanges.talks.trans htalks, hfirst.append hfares, hQ⟩
    · cases x with
      | ok x => exact absurd (.answered x) hoff
      | error e =>
        dsimp only
        rw [hfails e hoff]
        exact leads_play_fail _ |>.2
          ⟨_, hexchanges.talks, .failed [] rfl nofun hoff, nofun⟩
  · exact fun w' hstop hexchanges => ⟨_, hexchanges.talks, .givenUp [] hstop rfl nofun, nofun⟩
  · exact fun hstop => ⟨[], .nil (.refl w), .leftOut [] hstop rfl nofun, nofun⟩

theorem plans_call {c : Call} {f : c.Answer → Act Unit} (hc : ¬ c.AnswersAlert)
    (h : ∀ x, Plans o setup (f x) s (fun log => plan (⟨c, some (.ok x)⟩ :: log))
      fun log => Q (⟨c, some (.ok x)⟩ :: log)) :
    Plans o setup (call c >>= f) s (fun log => c :: plan log) Q := by
  unfold call
  rw [bind_assoc]
  refine plans_attempt (fun x hoff => ?_) fun e _ => rfl
  cases hoff with
  | answered x => exact h x
  | noAlert halert => exact absurd halert hc

/-- After the call nothing else is done. -/
theorem plans_last_call {c : Call} (hc : ¬ c.AnswersAlert)
    (ha : (call c >>= fun _ => pure ()) = a) (hQ : ∀ x, Q [⟨c, some (.ok x)⟩] s) :
    Plans o setup a s (fun _ => [c]) Q := by
  subst ha
  exact plans_call hc fun x => plans_pure (hQ x)

/-- The part of an event leaves what is remembered as it was. -/
def Kept (s : Session) : List Exchange → Session → Prop :=
  fun _ s' => s' = s

end Act
end PageScript
