import PageScript.Proofs.ActCalls
import PageScript.Proofs.PluginTurns
import PageScript.Proofs.ScopeUnderflows

/-!
# Why events give up

An event that gives up has a reason, and unless the reason is an error that is yet to be reported, it
has told of it already. Only two things pass without an error: that the element is missing where this
is allowed or expected, and that the browser finds the element hidden, which is judged when the
failure is reported.

The reasons are read off how acts are put together, one rule after another. It matters that the run has
not been stopped, since a step that is given up for this ends the event without a word; and so does a
plugin or a loader that answers with a cancellation of its own.
-/

namespace PageScript

variable {σ α β : Type} {o : Outside σ} {setup : Setup} {event : Event} {s : Session}
  {w w' : World σ}

/-- Why an event gives up with a mishap, in a world that has come from the first one. -/
inductive Event.GivesUp (o : Outside σ) (event : Event) (start : World σ) :
    Mishap → World σ → Prop where
  /-- An error has just been told. -/
  | told {w : World σ} (message : String) : start.Later w →
      GivesUp o event start .abort (w.say (.error message))
  /-- The element has just been looked for and is missing, which is allowed or expected. -/
  | missing {wanted : List (String × String)} {parent : Option Element} {patience : Duration}
      {description : String} {asked seen : World σ} (r : Remark) : start.Later asked →
      asked.Called o (.find wanted parent patience) (.error (.noSuchElement description)) seen →
      event.required = false ∨ event.actions.flag? "exists" = some false →
      GivesUp o event start .abort (seen.say r)
  /-- The browser has just answered that the element is hidden. -/
  | hidden {c : Call} {asked seen : World σ} : start.Later asked →
      asked.Called o c (.error .elementNotVisible) seen → GivesUp o event start .hidden seen
  /-- A plugin or the loader has answered that something is hidden. -/
  | passedOn {w : World σ} : event.kind.PassesOn → GivesUp o event start .hidden w
  | fault (e : Error) (w : World σ) : GivesUp o event start (.fault e) w
  | lost (e : Error) (w : World σ) : GivesUp o event start (.lost e) w

namespace Event.GivesUp

variable {m : Mishap}

/-- The reason may have come up in what is only a part of the event. -/
theorem earlier (h : event.GivesUp o w m w') {start : World σ} (hlater : start.Later w) :
    event.GivesUp o start m w' := by
  cases h with
  | told message h => exact .told message (hlater.trans h)
  | missing r hasked hcalled hspared => exact .missing r (hlater.trans hasked) hcalled hspared
  | hidden hasked hcalled => exact .hidden (hlater.trans hasked) hcalled
  | passedOn h => exact .passedOn h
  | fault e => exact .fault e _
  | lost e => exact .lost e _

theorem ofBrowser {c : Call} {e : BrowserError} (h : w.Called o c (.error e) w') :
    event.GivesUp o w (.ofBrowser e) w' := by
  cases e with
  | elementNotVisible => exact .hidden (.refl w) h
  | sessionLost _ => exact .lost _ w'
  | _ => exact .fault _ w'

/-- What a plugin or a loader has answered is passed on, unless it is a cancellation. -/
theorem ofError (hkind : event.kind.PassesOn) {e : Error} (hne : e ≠ .cancelled) :
    event.GivesUp o w (.ofError e) w' := by
  cases e with
  | browser b =>
    cases b with
    | elementNotVisible => exact .passedOn hkind
    | sessionLost _ => exact .lost _ w'
    | _ => exact .fault _ w'
  | cancelled => exact absurd rfl hne
  | _ => exact .fault _ w'

end Event.GivesUp

/-- Neither a plugin nor the loader answers with a cancellation. -/
structure Setup.Uncancelled (setup : Setup) (o : Outside σ) : Prop where
  plugins : ∀ r ∈ Configured.catalog setup.plugins, ∀ c,
    ¬ (r.plugin.execute c).Ends (.error .cancelled)
  loader : ∀ path, ¬ o.Answers (.loadScript path) (.error .cancelled)

namespace Stretch

/-- What a part of a run passes with is also later than its start. -/
theorem Passes.later {ε : Type} {p : ExceptT ε Stretch α} {Q : α → Session → World σ → Prop}
    {E : ε → Session → World σ → Prop} (h : Passes o p s w Q E) :
    Passes o p s w (fun a s' w' => Q a s' w' ∧ w.Later w') E := by
  have hlater : Leads o p.run s w fun _ _ w' => w.Later w' := World.leads_later _
  refine (Leads.and h hlater).mono fun r s' w' ⟨hr, hl⟩ hgoes => ?_
  cases r with
  | ok a => exact ⟨hr hgoes, hl⟩
  | error e => exact hr hgoes

/-- A part of an event that gives up only for a reason. -/
def Reasoned (o : Outside σ) (event : Event) (p : Passage α) : Prop :=
  ∀ s w, Passes o p s w (fun _ _ _ => True) fun m _ w' => event.GivesUp o w m w'

/-! ## Acts -/

section Acts

theorem reasoned_pure (a : α) : Reasoned o event (Passage.act setup (pure a : Act α)) :=
  fun _ _ => Act.passes_pure trivial

theorem Reasoned.bind {p : Passage β} {f : β → Passage α} (hp : Reasoned o event p)
    (hf : ∀ b, Reasoned o event (f b)) : Reasoned o event (p >>= f) := fun s w =>
  Passes.bind (hp s w).later fun b s' w' h =>
    (hf b s' w').mono (fun _ _ _ _ => trivial) fun _ _ _ hgives => hgives.earlier h.2

theorem Reasoned.act_bind {a : Act β} {f : β → Act α}
    (ha : Reasoned o event (Passage.act setup a))
    (hf : ∀ b, Reasoned o event (Passage.act setup (f b))) :
    Reasoned o event (Passage.act setup (a >>= f)) := fun s w =>
  Act.passes_bind (ha s w).later fun b s' w' h =>
    (hf b s' w').mono (fun _ _ _ _ => trivial) fun _ _ _ hgives => hgives.earlier h.2

/-- What comes after a step starts where the step has been answered. -/
theorem reasoned_next {a : Act β} {f : β → Act α} {R : β → World σ → World σ → Prop}
    (ha : ∀ s w, Passes o (Passage.act setup a) s w (fun b _ w' => R b w w') fun m _ w' =>
      event.GivesUp o w m w')
    (hf : ∀ b s w w', R b w w' → w.Later w' → Passes o (Passage.act setup (f b)) s w'
      (fun _ _ _ => True) fun m _ w'' => event.GivesUp o w m w'') :
    Reasoned o event (Passage.act setup (a >>= f)) := fun s w =>
  Act.passes_bind (ha s w).later fun b s' w' h => hf b s' w w' h.1 h.2

theorem Reasoned.from {p : Passage α} (hp : Reasoned o event p) (hlater : w.Later w')
    (s : Session) : Passes o p s w' (fun _ _ _ => True) fun m _ w'' => event.GivesUp o w m w'' :=
  (hp s w').mono (fun _ _ _ _ => trivial) fun _ _ _ hgives => hgives.earlier hlater

theorem reasoned_move (m : Move) : Reasoned o event (Passage.act setup (Act.move m)) :=
  fun _ _ => Act.passes_move ((leads_trivial _).mono fun _ _ _ _ _ => trivial)

theorem reasoned_step (st : Step) : Reasoned o event (Passage.act setup (Act.step st)) :=
  fun _ _ => Act.passes_step fun _ _ _ => trivial

theorem reasoned_told (message : String) :
    Reasoned o event (Passage.act setup (Act.error message >>= fun _ => (Act.fail .abort : Act α))) :=
  fun _ w => Act.passes_then (Act.passes_say (Act.passes_fail (.told message (.refl w))))

/-- An event may give up for its element because it is missing. -/
theorem passes_missing {wanted : List (String × String)} {parent : Option Element}
    {patience : Duration} {description : String} (hlater : w.Later w')
    (hcalled : w.Called o (.find wanted parent patience) (.error (.noSuchElement description)) w')
    (s : Session) :
    Passes o (Passage.act setup (Act.tellMissing event description >>= fun _ =>
      (Act.fail .abort : Act α))) s w' (fun _ _ _ => True) fun m _ w'' => event.GivesUp o w m w'' := by
  have hmissing (r : Remark) (hspared : event.required = false ∨
      event.actions.flag? "exists" = some false) :
      event.GivesUp o w .abort (w'.say r) := .missing r (.refl w) hcalled hspared
  have htell {r : Remark} (h : event.GivesUp o w .abort (w'.say r)) :
      Passes o (Passage.act setup (Act.say r >>= fun _ => (Act.fail .abort : Act α))) s w'
        (fun _ _ _ => True) fun m _ w'' => event.GivesUp o w m w'' :=
    Act.passes_then (Act.passes_say (Act.passes_fail h))
  unfold Act.tellMissing
  split
  · next hexists => exact htell (hmissing _ (.inr hexists))
  · next hrequired => exact htell (hmissing _ (.inl hrequired))
  · exact htell (.told _ hlater)

/-! ### The calls, loads and plugins that acts are put together from -/

/-- A failure of the browser is a reason, if the event does not deal with it. -/
theorem reasoned_asked {c : Call} {f : Except BrowserError c.Answer → Act α}
    (hok : ∀ x, Reasoned o event (Passage.act setup (f (.ok x))))
    (herror : ∀ e, f (.error e) ≠ Act.fail (.ofBrowser e) →
      Reasoned o event (Passage.act setup (f (.error e)))) :
    Reasoned o event (Passage.act setup (Act.attempt c >>= f)) := by
  refine reasoned_next (R := fun x w w' => w.Called o c x w')
    (fun s w => Act.passes_attempt fun _ _ h => h) fun x s w w' hcalled hlater => ?_
  cases x with
  | ok x => exact (hok x).from hlater s
  | error e =>
    by_cases hpassed : f (.error e) = Act.fail (.ofBrowser e)
    · rw [hpassed]
      exact Act.passes_fail (.ofBrowser hcalled)
    · exact (herror e hpassed).from hlater s

theorem reasoned_sought {wanted : List (String × String)} {parent : Option Element}
    {patience : Duration} {f : Except BrowserError Element → Act α}
    (hmissing : ∀ description, f (.error (.noSuchElement description)) =
      (Act.tellMissing event description >>= fun _ => Act.fail .abort))
    (hpassed : ∀ e, (∀ description, e ≠ .noSuchElement description) →
      f (.error e) = Act.fail (.ofBrowser e))
    (hok : ∀ x, Reasoned o event (Passage.act setup (f (.ok x)))) :
    Reasoned o event (Passage.act setup (Act.attempt (.find wanted parent patience) >>= f)) := by
  refine reasoned_next (R := fun x w w' => w.Called o (.find wanted parent patience) x w')
    (fun s w => Act.passes_attempt fun _ _ h => h) fun x s w w' hcalled hlater => ?_
  rcases x with e | element
  · cases e with
    | noSuchElement description =>
      rw [hmissing]
      exact passes_missing hlater hcalled s
    | _ =>
      rw [hpassed _ fun _ heq => by cases heq]
      exact Act.passes_fail (.ofBrowser hcalled)
  · exact (hok element).from hlater s

/-- So is what the loader has answered, which is no cancellation. -/
theorem reasoned_loaded (hnot : setup.Uncancelled o) (hkind : event.kind.PassesOn) {path : String}
    {f : Except Error (List Event) → Act α} (hpassed : ∀ e, f (.error e) = Act.fail (.ofError e))
    (hok : ∀ events, Reasoned o event (Passage.act setup (f (.ok events)))) :
    Reasoned o event (Passage.act setup (Act.perform (.loadScript path) >>= f)) := by
  refine reasoned_next (R := fun x _ _ => o.Answers (.loadScript path) x)
    (fun s w => Act.passes_step fun x w' hstep => ⟨_, _, World.ending_of_act hstep⟩)
    fun x s w w' hanswers hlater => ?_
  cases x with
  | ok events => exact (hok events).from hlater s
  | error e =>
    rw [hpassed e]
    refine Act.passes_fail (.ofError hkind ?_)
    rintro rfl
    exact hnot.loader path hanswers

/-- A plugin that an event runs comes to an end of its own, or the run has been stopped. -/
theorem passes_plugin_ends (r : Registration) (element : Option Element) (args : List String) :
    Passes o (Passage.act setup (Act.move (.plugin r.plugin element args))) s w
      (fun x _ _ => ∃ result c, x = .ok result ∧ (r.plugin.execute c).Ends result)
      fun m _ w' => event.GivesUp o w m w' := by
  refine Act.passes_move ?_
  rw [Move.play, leads_bind, leads_get, leads_ofWorker]
  refine ((leads_plugin_ends r.plugin _ none _).and
    (World.stopped_of_plugin rfl r.plugin none _)).mono fun x w' h hgoes => ?_
  cases x with
  | ok result => exact ⟨result, _, rfl, h.1 result rfl⟩
  | error cut =>
    obtain hstop | ⟨-, hlimit⟩ := h.2 cut rfl
    · rw [hgoes] at hstop
      cases hstop
    · cases hlimit

/-- So is what a plugin that the event runs has answered. -/
theorem reasoned_plugin (hnot : setup.Uncancelled o) (hkind : event.kind.PassesOn)
    {r : Registration} (hmem : r ∈ Configured.catalog setup.plugins) {element : Option Element}
    {args : List String} {f : Except Cut (Except Error Unit) → Act α}
    (hpassed : ∀ e, f (.ok (.error e)) = Act.fail (.ofError e))
    (hok : Reasoned o event (Passage.act setup (f (.ok (.ok ()))))) :
    Reasoned o event (Passage.act setup (Act.move (.plugin r.plugin element args) >>= f)) := by
  refine reasoned_next (fun s w => passes_plugin_ends r element args)
    fun x s w w' hresult hlater => ?_
  obtain ⟨result, c, rfl, hends⟩ := hresult
  rcases result with e | ⟨⟩
  · rw [hpassed e]
    refine Act.passes_fail (.ofError hkind ?_)
    rintro rfl
    exact hnot.plugins r hmem c hends
  · exact hok.from hlater s

/-- **Whatever an event does, it is given up only for a reason.** -/
theorem reasoned_act (hnot : setup.Uncancelled o) {a : Act α}
    (ha : a.Composed setup event event.kind) : Reasoned o event (Passage.act setup a) := by
  induction ha with
  | pure a => exact reasoned_pure a
  | @fault _ e _ _ => exact fun _ w => Act.passes_fail (.fault e w)
  | bind _ _ iha ihf => exact iha.act_bind ihf
  | move _ | activate _ _ => exact reasoned_move _
  | fill raw => exact (reasoned_move .session).act_bind fun _ => reasoned_pure _
  | bound name _ ih => exact (reasoned_move .session).act_bind fun _ => ih _
  | remembered _ _ _ ih => exact (reasoned_move .session).act_bind ih
  | asked _ _ _ _ ihok iherror => exact reasoned_asked ihok iherror
  | sought _ hmissing hpassed _ ihok => exact reasoned_sought hmissing hpassed ihok
  | click element _ =>
    have hcall : Reasoned o event (Passage.act setup (Act.call (.click element))) :=
      fun _ _ => Act.passes_call (fun _ _ _ => trivial) fun _ _ h => .ofBrowser h
    exact (reasoned_move _).act_bind fun _ => (reasoned_move _).act_bind fun _ =>
      hcall.act_bind fun _ => reasoned_move _
  | performed _ | rest _ => exact reasoned_step _
  | loaded hkind hpassed _ ihok => exact reasoned_loaded hnot (.inr hkind) hpassed ihok
  | plugin hkind hmem _ hpassed _ ihok => exact reasoned_plugin hnot (.inl hkind) hmem hpassed ihok
  | told message _ hend =>
    rw [hend]
    exact reasoned_told message

end Acts

/-! ## Whole events -/

theorem reasoned_passage (hnot : setup.Uncancelled o) {p : Passage α}
    (hp : p.Composed setup event event.kind) : Reasoned o event p := by
  induction hp with
  | pure a => exact fun _ _ => passes_pure fun _ => trivial
  | act ha => exact reasoned_act hnot ha
  | extend d _ => exact fun _ _ => passes_extend trivial
  | bind _ _ ihp ihf => exact ihp.bind ihf

/-- An event that has failed has given up for a reason, unless the run has been stopped by then. -/
theorem comes_givesUp (hnot : setup.Uncancelled o) {parent : Option Element} {mishap : Mishap}
    {m m' : Moment σ}
    (h : Comes o (Passage.openEvent setup event parent).run m (.error mishap) m') : ∃ w,
      m'.world = w.tell (.stage (.carriedOut event (.error mishap))) ∧ m.world.Later w ∧
      (m'.world.isStopped = false → event.GivesUp o m.world mishap w) := by
  obtain ⟨w, hworld, hcomes⟩ := comes_carryOut h
  refine ⟨w, hworld, hcomes.later, fun hgoes => ?_⟩
  rw [hworld] at hgoes
  exact hcomes.of_leads
    (reasoned_passage hnot (Passage.composed_carryOut event parent) _ _) hgoes

/-- What restores the context fails only for what the browser has just answered. -/
theorem passes_restore_called (r : Restore) : Passes o (Passage.restore setup r) s w
    (fun _ _ _ => True) fun m _ w' => ∃ c asked e, w.Later asked ∧
      asked.Called o c (.error e) w' ∧ m = .ofBrowser e := by
  cases r with
  | nothing => exact passes_pure fun _ => trivial
  | defaultContent =>
    exact Act.passes_then (Act.passes_say (Act.passes_call (fun _ _ _ => trivial)
      fun e _ h => ⟨_, _, e, World.later_tell _ _, h, rfl⟩))
  | window handle =>
    exact Act.passes_then (Act.passes_say (Act.passes_then (Act.passes_call
      (fun _ _ _ => Act.passes_edit trivial) fun e _ h => ⟨_, _, e, World.later_tell _ _, h, rfl⟩)))

end Stretch
end PageScript
