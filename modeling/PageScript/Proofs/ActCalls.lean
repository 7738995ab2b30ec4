import PageScript.Proofs.AnsweredSteps
import PageScript.Proofs.Stays
import PageScript.Proofs.PassingParts

/-!
# Calls of acts

What an act comes to follows from what its moves come to, one after another. Unless the run has been
stopped, each call is answered: the history tells of the call, and then the outside is as the answer
says. What is said and what the run remembers does not reach the outside.

The calls that a history tells of, in order, are those of events, of plugins and of the queries that
come before these.
-/

namespace PageScript

variable {σ α β : Type} {o : Outside σ} {setup : Setup} {s : Session} {w w' : World σ}

/-- The calls that a history tells of, in order. -/
def calls (history : List Happening) : List Call :=
  history.reverse.filterMap fun
    | .called c => some c
    | _ => none

section Histories

variable {h : Happening} {past : List Happening}

@[simp] theorem calls_called (c : Call) : calls (.called c :: past) = calls past ++ [c] := by
  simp [calls]

@[simp] theorem calls_notice (n : Notice) : calls (.notice n :: past) = calls past := by
  simp [calls]

/-- What a history has told stays told. -/
theorem World.Later.exists_calls (h : w.Later w') :
    ∃ made, calls w'.history = calls w.history ++ made := by
  obtain ⟨new, hnew⟩ := h.history
  refine ⟨calls new, ?_⟩
  rw [← hnew, calls, List.reverse_append, List.filterMap_append]
  rfl

theorem World.Adds.calls_eq {ok : Stopper → Prop} (h : w.Adds (Happening.Ambient ok) w') :
    calls w'.history = calls w.history :=
  h.keeps (P := fun past => calls past = calls w.history)
    (fun new past hambient hpast => by cases hambient <;> exact (calls_notice _).trans hpast) rfl

end Histories

/-- The browser has been called and has answered, while the supervisor and the outside went on. -/
structure World.Called (o : Outside σ) (c : Call) (w : World σ)
    (x : Except BrowserError c.Answer) (w' : World σ) : Prop where
  ending : (o (.call c) w.outside).ending = some (x, w'.outside)
  adds : (w.happen (.called c)).Adds (Happening.Ambient fun _ => True) w'

theorem World.called_of_step {c : Call} {x : Except BrowserError c.Answer} {g : Guard}
    (h : w.step o g (.act (.call c)) = (.ok x, w')) : w.Called o c x w' := by
  have helapses := World.elapses_step o g w (.act (.call c))
  rw [h] at helapses
  exact ⟨World.ending_of_act h, (helapses.mono fun _ _ => trivial).adds⟩

/-- While the worker sleeps only the supervisor and the outside go on. -/
theorem World.adds_of_sleep {d : Duration} {x : Unit} {g : Guard}
    (h : w.step o g (.sleep d) = (.ok x, w')) : w.Adds (Happening.Ambient fun _ => True) w' := by
  have helapses := World.elapses_step o g w (.sleep d)
  rw [h] at helapses
  exact (helapses.mono fun _ _ => trivial).adds

theorem World.Called.calls_eq {c : Call} {x : Except BrowserError c.Answer}
    (h : w.Called o c x w') : calls w'.history = calls w.history ++ [c] :=
  h.adds.calls_eq.trans (calls_called c)

namespace Act

open Stretch

variable {Q : α → Session → World σ → Prop} {E : Mishap → Session → World σ → Prop}

/-- What comes after an act starts where the act has passed. -/
theorem passes_bind {a : Act β} {f : β → Act α} {R : β → Session → World σ → Prop}
    (h : Passes o (Passage.act setup a) s w R E)
    (hnext : ∀ b s' w', R b s' w' → Passes o (Passage.act setup (f b)) s' w' Q E) :
    Passes o (Passage.act setup (a >>= f)) s w Q E := by
  have hbind := Passes.bind (f := fun b => Passage.act setup (f b)) h hnext
  unfold Passes at hbind ⊢
  rw [leads_run_bind] at hbind
  refine leads_play_bind a f |>.2 (Leads.mono hbind fun r s' w' h' => ?_)
  cases r <;> exact h'

theorem passes_then {a : Act β} {f : β → Act α}
    (h : Passes o (Passage.act setup a) s w
      (fun b s' w' => Passes o (Passage.act setup (f b)) s' w' Q E) E) :
    Passes o (Passage.act setup (a >>= f)) s w Q E :=
  passes_bind h fun _ _ _ h' => h'

theorem passes_pure {a : α} (h : Q a s w) :
    Passes o (Passage.act setup (pure a : Act α)) s w Q E := by
  unfold Passes Passage.act
  rw [leads_run_mk, leads_play_pure]
  exact fun _ => h

theorem passes_fail {m : Mishap} (h : E m s w) :
    Passes o (Passage.act setup (fail m : Act α)) s w Q E := by
  unfold Passes Passage.act
  rw [leads_run_mk, leads_play_fail]
  exact fun _ => h

theorem passes_move {m : Move} {Q : m.Answer → Session → World σ → Prop}
    (h : Leads o (m.play setup) s w fun x s' w' => w'.isStopped = false → Q x s' w') :
    Passes o (Passage.act setup (move m)) s w Q E := by
  unfold Passes Passage.act
  rw [leads_run_mk, leads_play_move]
  exact h

theorem passes_say {r : Remark} {Q : Unit → Session → World σ → Prop} (h : Q () s (w.say r)) :
    Passes o (Passage.act setup (say r)) s w Q E :=
  passes_move (leads_ofWorker _ |>.2 (World.leads_say r |>.2 fun _ => h))

/-- Of what an act comes to nothing need be said. -/
theorem passes_any (a : Act α) : Passes o (Passage.act setup a) s w (fun _ _ _ => True)
    fun _ _ _ => True :=
  (leads_trivial _).mono fun r _ _ _ _ => by cases r <;> trivial

theorem passes_later (a : Act α) :
    Passes o (Passage.act setup a) s w (fun _ _ w' => w.Later w') fun _ _ _ => True := by
  have hlater : Leads o (Passage.act setup a).run s w fun _ _ w' => w.Later w' :=
    World.leads_later _
  refine hlater.mono fun r _ _ h _ => ?_
  cases r with
  | ok _ => exact h
  | error _ => trivial

theorem passes_now {Q : Duration → Session → World σ → Prop} (h : Q w.now s w) :
    Passes o (Passage.act setup (move .now)) s w Q E :=
  passes_move (leads_ofWorker _ |>.2 (World.leads_now.2 fun _ => h))

theorem passes_session {Q : Session → Session → World σ → Prop} (h : Q s s w) :
    Passes o (Passage.act setup session) s w Q E :=
  passes_move (leads_get.2 fun _ => h)

theorem passes_edit {e : Edit} {Q : Unit → Session → World σ → Prop} (h : Q () (s.edit e) w) :
    Passes o (Passage.act setup (edit e)) s w Q E :=
  passes_move (leads_modify _ |>.2 fun _ => h)

/-- Unless the run has been stopped by then, a step is answered. -/
theorem passes_step {st : Step} {Q : st.Answer → Session → World σ → Prop}
    (h : ∀ x w', w.step o (.untilStop none) st = (.ok x, w') → Q x s w') :
    Passes o (Passage.act setup (step st)) s w Q E := by
  refine passes_bind (R := fun r s' w' => ∃ x, r = .ok x ∧ Q x s' w') ?_ ?_
  · refine passes_move (leads_ofWorker _ |>.2 ?_)
    rw [World.leads_guarded]
    split
    · rename_i hstop
      intro hgoes
      rw [Bool.and_eq_true, hgoes] at hstop
      cases hstop.2
    · intro hgoes
      rcases hres : w.step o (.untilStop none) st with ⟨cut | x, w'⟩
      · rw [hres, World.isStopped_of_cut hres] at hgoes
        cases hgoes
      · exact ⟨x, rfl, h x w' hres⟩
  · rintro _ s' w' ⟨x, rfl, hQ⟩
    exact passes_pure hQ

theorem passes_attempt {c : Call} {Q : Except BrowserError c.Answer → Session → World σ → Prop}
    (h : ∀ x w', w.Called o c x w' → Q x s w') :
    Passes o (Passage.act setup (attempt c)) s w Q E :=
  passes_step fun x w' hstep => h x w' (World.called_of_step hstep)

theorem passes_call {c : Call} {Q : c.Answer → Session → World σ → Prop}
    (hok : ∀ x w', w.Called o c (.ok x) w' → Q x s w')
    (herror : ∀ e w', w.Called o c (.error e) w' → E (.ofBrowser e) s w') :
    Passes o (Passage.act setup (call c)) s w Q E := by
  refine passes_bind (passes_attempt (Q := fun x s' w' => s' = s ∧ w.Called o c x w') ?_) ?_
  · exact fun x w' hcalled => ⟨rfl, hcalled⟩
  · rintro x s' w' ⟨rfl, hcalled⟩
    cases x with
    | ok x => exact passes_pure (hok x w' hcalled)
    | error e => exact passes_fail (herror e w' hcalled)

/-- A text is filled in with the variables as they stand. -/
theorem passes_fill {raw : String} {Q : String → Session → World σ → Prop}
    (h : Q (substitute setup.hijacks s.vars raw) s w) :
    Passes o (Passage.act setup (fill setup raw)) s w Q E :=
  passes_then (passes_session (passes_pure h))

theorem passes_fill? {raw : Option String} {Q : Option String → Session → World σ → Prop}
    (h : Q (raw.map (substitute setup.hijacks s.vars)) s w) :
    Passes o (Passage.act setup (fill? setup raw)) s w Q E := by
  cases raw with
  | none => exact passes_pure h
  | some raw => exact passes_then (passes_fill (passes_pure h))

theorem passes_action? {event : Event} (name : String)
    {Q : Option String → Session → World σ → Prop}
    (h : Q ((event.actions.text? name).map (substitute setup.hijacks s.vars)) s w) :
    Passes o (Passage.act setup (action? setup event name)) s w Q E :=
  passes_fill? h

/-! ## Acts that only look -/

/-- Whatever it comes to, an act leaves everything as it was. -/
def Still (o : Outside σ) (setup : Setup) (a : Act α) : Prop :=
  ∀ s w, Passes o (Passage.act setup a) s w (fun _ s' w' => s' = s ∧ w' = w)
    fun _ s' w' => s' = s ∧ w' = w

theorem still_pure (a : α) : Still o setup (pure a : Act α) :=
  fun _ _ => passes_pure ⟨rfl, rfl⟩

theorem still_fail (m : Mishap) : Still o setup (fail m : Act α) :=
  fun _ _ => passes_fail ⟨rfl, rfl⟩

theorem Still.bind {a : Act β} {f : β → Act α} (ha : Still o setup a)
    (hf : ∀ b, Still o setup (f b)) : Still o setup (a >>= f) := by
  intro s w
  refine passes_bind (ha s w) ?_
  rintro b s' w' ⟨rfl, rfl⟩
  exact hf b s' w'

theorem still_session : Still o setup session :=
  fun _ _ => passes_session ⟨rfl, rfl⟩

theorem still_fill? (raw : Option String) : Still o setup (fill? setup raw) := by
  cases raw with
  | none => exact still_pure none
  | some raw => exact (still_session.bind fun _ => still_pure _).bind fun _ => still_pure _

theorem still_ofEvent (event : Event) : Still o setup (WindowQuery.ofEvent setup event) := by
  refine (still_fill? _).bind fun title => (still_fill? _).bind fun url =>
    (still_fill? _).bind fun index => ?_
  cases index with
  | some raw =>
    dsimp only
    split
    · exact still_pure _
    · exact still_fail _
  | none =>
    dsimp only
    split
    · exact still_fail _
    · exact still_pure _

end Act

namespace Stretch

theorem passes_extend {d : Duration} {Q : Unit → Session → World σ → Prop}
    {E : Mishap → Session → World σ → Prop} (h : Q () s (w.extend d)) :
    Passes o (Passage.extend d) s w Q E :=
  leads_passage_extend d |>.2 fun _ => h

/-- An event is opened by being carried out, and then its result is told. -/
theorem comes_carryOut {event : Event} {parent : Option Element} {m m' : Moment σ}
    {result : Except Mishap Opened}
    (h : Comes o (Passage.openEvent setup event parent).run m result m') : ∃ w : World σ,
      m'.world = w.tell (.stage (.carriedOut event result)) ∧
      Comes o (Passage.carryOut setup event parent).run m result ⟨m'.session, w⟩ := by
  refine h.of_leads (Q := fun r s' w' => ∃ w : World σ,
    w' = w.tell (.stage (.carriedOut event r)) ∧
      Comes o (Passage.carryOut setup event parent).run m r ⟨s', w⟩) ?_
  rw [Passage.openEvent, leads_run_bind, leads_run_lift]
  refine (leads_comes _).mono fun r s' w hcomes => ?_
  dsimp only
  rw [leads_run_bind, leads_passage_tell]
  exact leads_pure r |>.2 ⟨w, rfl, hcomes⟩

end Stretch
end PageScript
