import PageScript.Proofs.ActComposition

/-!
# Heeding the loss of the browser

While an event is carried out it asks for one thing after another. It heeds the loss of the browser
if, as soon as an answer says that the browser is lost, it is over with that error and asks for
nothing more, and if it ends so for no other reason. Such an answer may come from a call, from a
plugin that the event runs by name, and from whatever loads the script that it includes. To report
the loss is left to the traversal, so an event says nothing of it.

`Act.Heeds` says so of all the paths of an act, whatever is answered on them. Each of the things from
which acts are put together heeds the loss, so everything that an event does heeds it, and everything
that restores the context after its children.
-/

namespace PageScript

variable {α β : Type}

/-- Whether an error says that the browser is lost. -/
def Error.isLoss : Error → Bool
  | .browser e => e.isFatal
  | _ => false

theorem Error.isLoss_iff {e : Error} :
    e.isLoss = true ↔ ∃ reason, e = .browser (.sessionLost reason) := by
  constructor
  · intro h
    rcases e with _ | _ | _ | _ | cause | _ <;> try cases h
    cases cause <;> first | exact ⟨_, rfl⟩ | cases h
  · rintro ⟨reason, rfl⟩
    rfl

/-- An error that says that the browser is lost. -/
def Error.loss? (e : Error) : Option Error :=
  if e.isLoss then some e else none

namespace Move

/-- The error by which the answer to a move says that the browser is lost, if it does. -/
def loss? : (m : Move) → m.Answer → Option Error
  | .step (.act (.call _)), .ok (.error e) => Error.loss? (.browser e)
  | .step (.act (.loadScript _)), .ok (.error e) => e.loss?
  | .plugin .., .ok (.error e) => e.loss?
  | _, _ => none

theorem isLoss_of_loss? {m : Move} {x : m.Answer} {e : Error} (h : m.loss? x = some e) :
    e.isLoss = true := by
  have herror {e' : Error} (h : e'.loss? = some e) : e.isLoss = true := by
    unfold Error.loss? at h
    split at h
    · cases h
      assumption
    · cases h
  unfold loss? at h
  split at h <;> first | exact herror h | cases h

/-- A move that does not report the loss of the browser. -/
def Tame : Move → Prop
  | .say r => r.Tame
  | _ => True

end Move

namespace Act

/-- On every path the first answer that says that the browser is lost is the last one, and the path
ends with that error; no other path ends so. -/
def Heeding : Program Move Move.Answer (Except Mishap α) → Prop
  | .done r => ∀ e, r ≠ .error (.lost e)
  | .ask m next => m.Tame ∧ ∀ x,
    (∀ e, m.loss? x = some e → next x = .done (.error (.lost e))) ∧
      (m.loss? x = none → Heeding (next x))

/-- An act that is over as soon as the browser is lost. -/
def Heeds (a : Act α) : Prop := Heeding a.run

/-- An act that may come after an answer which may say that the browser is lost. -/
structure TakesUp (loss : Option Error) (a : Act α) : Prop where
  lost : ∀ e, loss = some e → a = fail (.lost e)
  heeds : loss = none → a.Heeds

theorem heeds_pure (a : α) : Heeds (pure a : Act α) := by
  intro e heq
  cases heq

theorem heeds_fail {m : Mishap} (h : ∀ e, m ≠ .lost e) : Heeds (fail m : Act α) := by
  intro e heq
  cases heq
  exact h e rfl

theorem Heeds.bind {a : Act β} {f : β → Act α} (h : a.Heeds) (hf : ∀ b, (f b).Heeds) :
    (a >>= f).Heeds := by
  unfold Heeds at h ⊢
  rw [ExceptT.run_bind]
  generalize a.run = p at h
  induction p with
  | done r =>
    cases r with
    | ok b => exact hf b
    | error m => exact fun e heq => h e (by cases heq; rfl)
  | ask m next ih =>
    refine ⟨h.1, fun x => ⟨fun e hloss => ?_, fun hloss => ih x ((h.2 x).2 hloss)⟩⟩
    dsimp only
    rw [(h.2 x).1 e hloss]
    rfl

theorem TakesUp.of_heeds {a : Act α} (h : a.Heeds) : a.TakesUp none :=
  ⟨fun _ heq => (by cases heq), fun _ => h⟩

/-- What is asked for after a move takes up its answer. -/
theorem heeds_move_bind {m : Move} {f : m.Answer → Act α} (htame : m.Tame)
    (h : ∀ x, (f x).TakesUp (m.loss? x)) : (move m >>= f).Heeds :=
  ⟨htame, fun x => ⟨fun e hloss => congrArg ExceptT.run ((h x).lost e hloss), (h x).heeds⟩⟩

/-! ## Moves that cannot tell of the loss -/

theorem heeds_move {m : Move} (htame : m.Tame) (h : ∀ x, m.loss? x = none) :
    (move m).Heeds :=
  ⟨htame, fun x => ⟨fun e hloss => (by cases (h x).symm.trans hloss), fun _ => heeds_pure x⟩⟩

theorem heeds_log (message : String) : (log message).Heeds :=
  heeds_move (fun _ heq => by cases heq) fun _ => rfl

theorem heeds_error (message : String) : (error message).Heeds :=
  heeds_move (fun _ heq => by cases heq) fun _ => rfl

theorem heeds_edit (e : Edit) : (edit e).Heeds :=
  heeds_move trivial fun _ => rfl

theorem heeds_session : session.Heeds :=
  heeds_move trivial fun _ => rfl

theorem heeds_abort : (fail .abort : Act α).Heeds :=
  heeds_fail fun _ heq => by cases heq

theorem heeds_orAbort (r : Except Cut α) : (orAbort r).Heeds := by
  cases r with
  | ok x => exact heeds_pure x
  | error _ => exact heeds_abort

/-- A step whose answer cannot tell of the loss. -/
theorem heeds_step {s : Step} (h : ∀ x, Move.loss? (.step s) x = none) : (step s).Heeds :=
  (heeds_move (m := .step s) trivial h).bind heeds_orAbort

/-! ## Moves that may tell of the loss -/

theorem takesUp_ofBrowser (e : BrowserError) :
    (fail (.ofBrowser e) : Act α).TakesUp (Error.loss? (.browser e)) := by
  cases e with
  | sessionLost reason =>
    exact ⟨fun _ heq => (by cases heq; rfl), fun heq => (by cases heq)⟩
  | _ => exact .of_heeds (heeds_fail fun _ heq => by cases heq)

theorem takesUp_ofError (e : Error) : (fail (.ofError e) : Act α).TakesUp e.loss? := by
  cases e with
  | browser e => exact takesUp_ofBrowser e
  | _ => exact .of_heeds (heeds_fail fun _ heq => by cases heq)

/-- What is asked for after a step takes up its answer, unless the step is given up. -/
theorem heeds_step_bind {s : Step} {f : s.Answer → Act α}
    (h : ∀ x, (f x).TakesUp (Move.loss? (.step s) (.ok x))) : (step s >>= f).Heeds := by
  rw [step, bind_assoc]
  refine heeds_move_bind (m := .step s) trivial fun r => ?_
  cases r with
  | error cut =>
    have habort : (orAbort (.error cut) >>= f).TakesUp none :=
      .of_heeds (heeds_fail (m := .abort) fun _ heq => by cases heq)
    rcases s with (_ | _ | _ | _ | _) | _ | _ <;> exact habort
  | ok x => exact h x

/-- What comes after a call takes up its failure. -/
theorem heeds_attempt_bind {c : Call} {f : Except BrowserError c.Answer → Act α}
    (hok : ∀ x, (f (.ok x)).Heeds)
    (herror : ∀ e, (f (.error e)).TakesUp (Error.loss? (.browser e))) :
    (attempt c >>= f).Heeds := by
  refine heeds_step_bind fun x => ?_
  cases x with
  | ok x => exact .of_heeds (hok x)
  | error e => exact herror e

/-- What comes after a script has been asked for takes up the error of its loader. -/
theorem heeds_load_bind {path : String} {f : Except Error (List Event) → Act α}
    (hok : ∀ events, (f (.ok events)).Heeds) (herror : ∀ e, (f (.error e)).TakesUp e.loss?) :
    (perform (.loadScript path) >>= f).Heeds := by
  refine heeds_step_bind fun x => ?_
  cases x with
  | ok events => exact .of_heeds (hok events)
  | error e => exact herror e

theorem heeds_call (c : Call) : (call c).Heeds :=
  heeds_attempt_bind heeds_pure takesUp_ofBrowser

/-- Where a call fails, either the event is over or the failure is no loss. -/
theorem takesUp_error {f : BrowserError → Act α} {e : BrowserError}
    (hminor : f e ≠ fail (.ofBrowser e) → e.IsMinor)
    (hheeds : f e ≠ fail (.ofBrowser e) → (f e).Heeds) :
    (f e).TakesUp (Error.loss? (.browser e)) := by
  by_cases hpassed : f e = fail (.ofBrowser e)
  · rw [hpassed]
    exact takesUp_ofBrowser e
  · have hloss : Error.loss? (.browser e) = none := by
      have hminor := hminor hpassed
      cases e <;> first | rfl | cases hminor
    rw [hloss]
    exact .of_heeds (hheeds hpassed)

theorem heeds_tellMissing (event : Event) (description : String) :
    (tellMissing event description).Heeds := by
  unfold tellMissing
  split
  · exact heeds_log _
  · exact heeds_log _
  · exact heeds_error _

theorem heeds_click (event : Event) (element : Element) : (click event element).Heeds := by
  have haround (side : Side) : (move (.aroundClick side event element)).Heeds :=
    heeds_move trivial fun _ => rfl
  exact (haround .before).bind fun _ => (heeds_log _).bind fun _ =>
    (heeds_call (.click element)).bind fun _ => haround .after

theorem heeds_suited {kind : Kind} {m : Move} (h : m.Suits kind) : (move m).Heeds := by
  cases m with
  | say r => exact heeds_move h fun _ => rfl
  | now | calendar | edit _ => exact heeds_move trivial fun _ => rfl
  | step _ | session | aroundClick _ _ _ | plugin _ _ _ => cases h

theorem heeds_performed {kind : Kind} {a : Action} (h : a.Suits kind) : (perform a).Heeds := by
  refine heeds_step fun x => ?_
  cases a with
  | call _ | loadScript _ => cases h
  | readFile _ | writeFile _ _ | runProcess _ => cases x <;> rfl

/-- **Whatever events do heeds the loss of the browser.** -/
theorem Composed.heeds {setup : Setup} {event : Event} {kind : Kind} {a : Act α}
    (ha : a.Composed setup event kind) : a.Heeds := by
  induction ha with
  | pure a => exact heeds_pure a
  | fault _ _ => exact heeds_fail fun _ heq => by cases heq
  | bind _ _ iha ihf => exact iha.bind ihf
  | move h => exact heeds_suited h
  | fill raw => exact heeds_session.bind fun _ => heeds_pure _
  | bound name _ ih => exact heeds_session.bind fun _ => ih _
  | remembered _ _ _ ih => exact heeds_session.bind ih
  | @asked _ _ f _ hminor _ _ ihok iherror =>
    exact heeds_attempt_bind ihok fun e =>
      takesUp_error (f := fun e => f (.error e)) (hminor e) (iherror e)
  | sought _ hmissing hpassed _ ihok =>
    refine heeds_attempt_bind ihok fun e => ?_
    cases e with
    | noSuchElement description =>
      rw [hmissing]
      exact .of_heeds ((heeds_tellMissing _ description).bind fun _ => heeds_abort)
    | _ =>
      rw [hpassed _ fun _ heq => by cases heq]
      exact takesUp_ofBrowser _
  | click element _ => exact heeds_click _ element
  | performed h => exact heeds_performed h
  | loaded _ hpassed _ ihok =>
    refine heeds_load_bind ihok fun e => ?_
    rw [hpassed]
    exact takesUp_ofError e
  | plugin _ _ hcut hpassed _ ihok =>
    refine heeds_move_bind trivial fun result => ?_
    rcases result with cut | e | ⟨⟩
    · rw [hcut]
      exact .of_heeds heeds_abort
    · rw [hpassed]
      exact takesUp_ofError e
    · exact .of_heeds ihok
  | activate _ _ => exact heeds_edit _
  | told message _ hend =>
    rw [hend]
    exact (heeds_error message).bind fun _ => heeds_abort
  | rest _ => exact heeds_step fun x => by cases x <;> rfl

end Act

/-! ## Whole events -/

namespace Passage

/-- Put together from acts that are over as soon as the browser is lost, and from words to the
watchdog, on which nothing depends. -/
inductive Heeds (setup : Setup) : {α : Type} → Passage α → Prop where
  | pure {α : Type} (a : α) : Heeds setup (Pure.pure a)
  | act {α : Type} {a : Act α} : a.Heeds → Heeds setup (act setup a)
  | extend (d : Duration) : Heeds setup (extend d)
  | bind {α β : Type} {p : Passage β} {f : β → Passage α} : Heeds setup p →
      (∀ b, Heeds setup (f b)) → Heeds setup (p >>= f)

theorem Composed.heeds {setup : Setup} {event : Event} {kind : Kind} {p : Passage α}
    (hp : p.Composed setup event kind) : p.Heeds setup := by
  induction hp with
  | pure a => exact .pure a
  | act ha => exact .act ha.heeds
  | extend d _ => exact .extend d
  | bind _ _ ihp ihf => exact .bind ihp ihf

/-- **Every event heeds the loss of the browser**, whatever its kind. -/
theorem heeds_carryOut (setup : Setup) (event : Event) (parent : Option Element) :
    (carryOut setup event parent).Heeds setup :=
  (composed_carryOut event parent).heeds

/-- What restores the context after the children heeds it too. -/
theorem heeds_restore (setup : Setup) (r : Restore) : (restore setup r).Heeds setup :=
  (composed_restore { kind := r.kind, name := "" } r).heeds

end Passage
end PageScript
