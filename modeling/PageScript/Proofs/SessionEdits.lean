import PageScript.Proofs.ContextKept

/-!
# What a run remembers

What a run remembers changes only by edits. An event may make any of them, but that a plugin is made
active is left to one kind of event, and which file is read next to another one. What restores the
context of the browser, and what reports that an event has failed, changes the window in use at most;
and at its finish an event changes nothing.
-/

namespace PageScript

variable {σ α : Type} {o : Outside σ} {setup : Setup} {event : Event} {s s' s'' : Session}
  {w w' : World σ}

/-- What is remembered comes from what was remembered before by edits of some class. -/
inductive Session.Edited (C : Edit → Prop) (s : Session) : Session → Prop where
  | refl : s.Edited C s
  | edit {s' : Session} {e : Edit} : s.Edited C s' → C e → s.Edited C (s'.edit e)

/-- An edit of an event, which makes a plugin active only if the event is for that, and changes the
file that is read next only if it is a table event. -/
structure Event.MayEdit (event : Event) (e : Edit) : Prop where
  activates : ∀ r, e = .activate r → event.kind = .command .pluginloader
  chooses : ∀ file, e = .setPendingTable file → event.kind = .command .csv

/-- The window in use changes. -/
def Edit.SetsWindow (e : Edit) : Prop :=
  ∃ handle, e = .setWindow handle

namespace Session.Edited

variable {C : Edit → Prop}

theorem trans (h : s.Edited C s') (h' : s'.Edited C s'') : s.Edited C s'' := by
  induction h' with
  | refl => exact h
  | edit _ he ih => exact ih.edit he

/-- What every edit keeps, all of them keep. -/
theorem keeps {P : Session → Prop} (h : s.Edited C s')
    (hedit : ∀ s e, C e → P s → P (s.edit e)) (hs : P s) : P s' := by
  induction h with
  | refl => exact hs
  | edit _ he ih => exact hedit _ _ he ih

/-- To set the window leaves the variables and the active plugins as they are. -/
theorem setsWindow (h : s.Edited Edit.SetsWindow s') :
    s'.vars = s.vars ∧ s'.registry = s.registry := by
  refine h.keeps (P := fun t => t.vars = s.vars ∧ t.registry = s.registry) ?_ ⟨rfl, rfl⟩
  rintro t _ ⟨handle, rfl⟩ ht
  exact ht

end Session.Edited

namespace Stretch

variable {C : Edit → Prop}

theorem edited_move {m : Move} (h : ∀ e, m = .edit e → C e) :
    Leads o (m.play setup) s w fun _ s' _ => s.Edited C s' := by
  cases m with
  | edit e => exact leads_modify _ |>.2 (.edit .refl (h e rfl))
  | session => exact leads_get |>.2 .refl
  | aroundClick side event element => exact leads_fire _ _ |>.2 fun _ _ _ => .refl
  | plugin p element args =>
    rw [Move.play, leads_bind, leads_get, leads_ofWorker]
    exact fun _ _ _ => .refl
  | _ => exact leads_ofWorker _ |>.2 fun _ _ _ => .refl

theorem edited_play_move {m : Move} (h : ∀ e, m = .edit e → C e) :
    Leads o (Act.play setup (Act.move m)) s w fun _ s' _ => s.Edited C s' := by
  rw [leads_play_move]
  exact edited_move h

theorem chains_edited (C : Edit → Prop) :
    Chains fun (s : Session) (_ : World σ) s' (_ : World σ) => s.Edited C s' :=
  ⟨fun _ _ => .refl, .trans⟩

/-- What comes after an act goes on from what the act has changed. -/
theorem edited_bind {β : Type} {a : Act β} {f : β → Act α}
    (ha : Leads o (a.play setup) s w fun _ s' _ => s.Edited C s')
    (hf : ∀ b s w, Leads o ((f b).play setup) s w fun _ s' _ => s.Edited C s') :
    Leads o (Act.play setup (a >>= f)) s w fun _ s' _ => s.Edited C s' :=
  (chains_edited C).leads_play_bind ha hf

theorem edited_step (st : Step) :
    Leads o (Act.play setup (Act.step st)) s w fun _ s' _ => s.Edited C s' := by
  refine edited_bind (edited_play_move fun _ heq => by cases heq) fun r s w => ?_
  cases r with
  | ok x => exact leads_play_pure x |>.2 .refl
  | error _ => exact leads_play_fail _ |>.2 .refl

theorem edited_call (c : Call) :
    Leads o (Act.play setup (Act.call c)) s w fun _ s' _ => s.Edited C s' := by
  refine edited_bind (edited_step _) fun r s w => ?_
  cases r with
  | ok x => exact leads_play_pure x |>.2 .refl
  | error e => exact leads_play_fail _ |>.2 .refl

/-- An event makes no plugin active unless it is for that, and leaves it to table events which file is
read next. -/
theorem mayEdit_of_allowed {e : Edit} (h : Move.Allowed setup event.kind (.edit e)) :
    event.MayEdit e := by
  refine ⟨fun r heq => ?_, fun file heq => ?_⟩
  · subst heq
    exact h.1
  · subst heq
    exact h

theorem edited_passage {p : Passage α} (hp : p.Composed setup event event.kind) :
    Leads o p.run s w fun _ s' _ => s.Edited event.MayEdit s' := by
  have hspreads : Act.Spreads setup event event.kind fun a => ∀ (s : Session) (w : World σ),
      Leads o (a.play setup) s w fun _ s' _ => s.Edited event.MayEdit s' :=
    (chains_edited _).spreads fun hallowed _ _ =>
      edited_move fun _ heq => mayEdit_of_allowed (heq ▸ hallowed)
  exact (chains_edited _).leads_passage hspreads.composed (fun _ _ _ => .refl) hp s w

theorem edited_openEvent (event : Event) (parent : Option Element) :
    Leads o (Passage.openEvent setup event parent).run s w fun _ s' _ =>
      s.Edited event.MayEdit s' := by
  rw [Passage.openEvent, leads_run_bind, leads_run_lift]
  refine (edited_passage (Passage.composed_carryOut event parent)).mono fun r s' w' h => ?_
  dsimp only
  rw [leads_run_bind, leads_passage_tell]
  exact leads_pure r |>.2 h

theorem edited_restore (r : Restore) :
    Leads o (Passage.restore setup r).run s w fun _ s' _ => s.Edited Edit.SetsWindow s' := by
  have hsay (message : String) (s : Session) (w : World σ) :
      Leads o (Act.play setup (Act.log message)) s w fun _ s' _ =>
        s.Edited Edit.SetsWindow s' := leads_play_say _ |>.2 .refl
  cases r with
  | nothing => exact leads_run_pure () |>.2 .refl
  | defaultContent => exact edited_bind (hsay _ s w) fun _ _ _ => edited_call _
  | window handle =>
    refine edited_bind (hsay _ s w) fun _ _ _ => edited_bind (edited_call _) fun _ _ _ => ?_
    exact edited_play_move fun e heq => ⟨_, by cases heq; rfl⟩

/-- Between all that belongs to an event and its finish only the window in use may change. -/
theorem edited_settle (event : Event) (result : Except Mishap Opened) :
    Leads o (Journey.settle setup event result).run s w fun _ s' _ =>
      s.Edited Edit.SetsWindow s' := by
  have hreport (failure : Failure) (s : Session) (w : World σ) :
      Leads o (Journey.report event failure).run s w fun _ s' _ =>
        s.Edited Edit.SetsWindow s' := by
    refine (still_report event failure).mono ?_
    rintro _ _ _ ⟨rfl, -⟩
    exact .refl
  cases result with
  | error mishap => exact hreport _ s w
  | ok opened =>
    refine Journey.leads_settle ((edited_restore opened.restore).mono fun r s₁ w₁ h => ?_)
    cases r with
    | ok _ => exact h
    | error mishap => exact (hreport _ s₁ w₁).mono fun _ _ _ h' => h.trans h'

end Stretch
end PageScript
