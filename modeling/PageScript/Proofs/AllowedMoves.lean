import PageScript.Proofs.ActComposition
import PageScript.Proofs.Leads

/-!
# What the kinds of events may ask for

Whatever an event does comes down to single moves, and events of a kind make only some of them:
`Move.Allowed` says which. So a property of acts needs to be looked at only for these moves. If it
spreads from them, and from one thing after another, it holds of every act of such events, and nothing
else has to be known of how the acts are put together.
-/

namespace PageScript

variable {α β : Type} {setup : Setup} {event : Event} {kind : Kind}

/-- Whether events of a kind may make a call. -/
def Call.Allowed (kind : Kind) : Call → Prop
  | .find .. => kind.Locates
  | .click _ => kind.can .needsElement = true
  | c => c.Suits kind

/-- Whether events of a kind may ask for something outside. -/
def Action.Allowed (kind : Kind) : Action → Prop
  | .call c => c.Allowed kind
  | .loadScript _ => kind = .command .script
  | a => a.Suits kind

/-- Whether events of a kind may make a move. -/
def Move.Allowed (setup : Setup) (kind : Kind) : Move → Prop
  | .say r => r.Tame
  | .now | .calendar | .session => True
  | .step (.act a) => a.Allowed kind
  | .step (.sleep _) => kind.Rests
  | .step .forever => False
  | .edit (.activate r) => kind = .command .pluginloader ∧ r ∈ Configured.catalog setup.plugins
  | .edit e => e.Suits kind
  | .aroundClick .. => kind.can .needsElement = true
  | .plugin p .. => kind = .command .javaplugin ∧ ∃ r ∈ Configured.catalog setup.plugins, r.plugin = p

theorem Call.Suits.allowed {c : Call} (h : c.Suits kind) : c.Allowed kind := by
  cases c <;> first | exact h | cases h

theorem Action.Suits.allowed {a : Action} (h : a.Suits kind) : a.Allowed kind := by
  cases a <;> first | exact h | cases h

theorem Move.Suits.allowed {m : Move} (h : m.Suits kind) : m.Allowed setup kind := by
  cases m with
  | say _ | now | calendar => exact h
  | edit e => cases e <;> first | exact h | cases h
  | step _ | session | aroundClick _ _ _ | plugin _ _ _ => cases h

/-- Events leave alone the parts of the context that their kind is not for. -/
theorem Move.Allowed.shift?_ne {m : Move} {k : Shift} (h : m.Allowed setup kind)
    (hkind : kind.shift? ≠ some k) : m.shift? ≠ some k := by
  intro heq
  have hframe (hframe : kind = .frame) (heq : some Shift.frame = some k) : False :=
    hkind (heq ▸ Kind.shift?_eq_frame.2 hframe)
  cases m with
  | step s =>
    cases s with
    | act a =>
      cases a with
      | call c =>
        cases c with
        | switchToFrame _ | switchToDefaultContent => exact hframe h heq
        | switchToWindow _ | close => exact hkind (Eq.trans h heq)
        | _ => cases heq
      | _ => cases heq
    | _ => cases heq
  | edit e =>
    cases e with
    | setWindow _ => exact hkind (Eq.trans h heq)
    | _ => cases heq
  | _ => cases heq

/-- A move that stands by itself: it is neither a look at what the run remembers nor part of a click. -/
def Move.Alone : Move → Prop
  | .session | .aroundClick .. | .step (.act (.call (.click _))) => False
  | _ => True

theorem Move.Suits.alone {m : Move} (h : m.Suits kind) : m.Alone := by
  cases m with
  | say _ | now | calendar | edit _ => trivial
  | step _ | session | aroundClick _ _ _ | plugin _ _ _ => cases h

theorem Call.Suits.alone {c : Call} (h : c.Suits kind) : Move.Alone (.step (.act (.call c))) := by
  cases c <;> trivial

theorem Action.Suits.alone {a : Action} (h : a.Suits kind) : Move.Alone (.step (.act a)) := by
  cases a <;> trivial

namespace Act

/-- A property of acts that spreads from what a kind of events may do to all that is put together from
it. -/
structure Spreads (setup : Setup) (event : Event) (kind : Kind) (P : {α : Type} → Act α → Prop) :
    Prop where
  pure {α : Type} (a : α) : P (pure a : Act α)
  fail {α : Type} (m : Mishap) : P (fail m : Act α)
  bind {α β : Type} {a : Act β} {f : β → Act α} : P a → (∀ b, P (f b)) → P (a >>= f)
  move {m : Move} : m.Allowed setup kind → m.Alone → P (Act.move m)
  fill (raw : String) : P (Act.fill setup raw)
  bound {α : Type} (name : String) {f : Bool → Act α} : (∀ b, P (f b)) →
    P (session >>= fun s => f (s.vars.contains name))
  remembered {α : Type} {f : Session → Act α} : (∀ s vars, f { s with vars } = f s) →
    (kind ≠ .command .dnd → ∀ s stored, f { s with stored } = f s) → (∀ s, P (f s)) →
    P (session >>= f)
  click (element : Element) : kind.can .needsElement = true → P (Act.click event element)

namespace Spreads

variable {P : {α : Type} → Act α → Prop}

section Moves

variable (hP : Spreads setup event kind P)

include hP

theorem log (message : String) : P (Act.log message) :=
  hP.move (m := .say (.log message)) (fun _ heq => by cases heq) trivial

theorem error (message : String) : P (Act.error message) :=
  hP.move (m := .say (.error message)) (fun _ heq => by cases heq) trivial

/-- A step that has been given up ends the event. -/
theorem step {s : Step} (h : Move.Allowed setup kind (.step s)) (halone : Move.Alone (.step s)) :
    P (Act.step s) :=
  hP.bind (hP.move h halone) fun r => by
    cases r with
    | ok x => exact hP.pure x
    | error _ => exact hP.fail .abort

theorem tellMissing (event : Event) (description : String) :
    P (Act.tellMissing event description) := by
  unfold Act.tellMissing
  split
  · exact hP.log _
  · exact hP.log _
  · exact hP.error _

/-- A call whose failure ends the event, unless the event deals with it. -/
theorem asked {c : Call} {f : Except BrowserError c.Answer → Act α} (hsuits : c.Suits kind)
    (hok : ∀ x, P (f (.ok x)))
    (herror : ∀ e, f (.error e) ≠ Act.fail (.ofBrowser e) → P (f (.error e))) :
    P (Act.attempt c >>= f) := by
  refine hP.bind (hP.step (s := .act (.call c)) hsuits.allowed hsuits.alone) fun x => ?_
  cases x with
  | ok x => exact hok x
  | error e =>
    by_cases hpassed : f (.error e) = Act.fail (.ofBrowser e)
    · rw [hpassed]
      exact hP.fail _
    · exact herror e hpassed

/-- A look for an element, without which the event is over. -/
theorem sought {wanted : List (String × String)} {parent : Option Element} {patience : Duration}
    {f : Except BrowserError Element → Act α} (hlocates : kind.Locates)
    (hmissing : ∀ description, f (.error (.noSuchElement description)) =
      (Act.tellMissing event description >>= fun _ => Act.fail .abort))
    (hpassed : ∀ e, (∀ description, e ≠ .noSuchElement description) →
      f (.error e) = Act.fail (.ofBrowser e))
    (hok : ∀ x, P (f (.ok x))) : P (Act.attempt (.find wanted parent patience) >>= f) := by
  refine hP.bind (hP.step (s := .act (.call (.find wanted parent patience))) hlocates trivial)
    fun x => ?_
  rcases x with e | element
  · cases e with
    | noSuchElement description =>
      rw [hmissing]
      exact hP.bind (hP.tellMissing event description) fun _ => hP.fail .abort
    | _ =>
      rw [hpassed _ fun _ heq => by cases heq]
      exact hP.fail _
  · exact hok element

/-- A plugin of the catalog that is run, and whose failure is passed on. -/
theorem plugin {r : Registration} {element : Option Element} {args : List String}
    {f : Except Cut (Except Error Unit) → Act α} (hkind : kind = .command .javaplugin)
    (hmem : r ∈ Configured.catalog setup.plugins) (hcut : ∀ cut, f (.error cut) = Act.fail .abort)
    (hpassed : ∀ e, f (.ok (.error e)) = Act.fail (.ofError e)) (hok : P (f (.ok (.ok ())))) :
    P (Act.move (.plugin r.plugin element args) >>= f) := by
  refine hP.bind (hP.move ⟨hkind, r, hmem, rfl⟩ trivial) fun x => ?_
  rcases x with cut | e | ⟨⟩
  · rw [hcut]
    exact hP.fail _
  · rw [hpassed]
    exact hP.fail _
  · exact hok

end Moves

/-- **What spreads from what a kind of events may do holds of all their acts.** -/
theorem composed (hP : Spreads setup event kind P) {a : Act α} (ha : a.Composed setup event kind) :
    P a := by
  induction ha with
  | pure a => exact hP.pure a
  | fault _ _ => exact hP.fail _
  | bind _ _ iha ihf => exact hP.bind iha ihf
  | move h => exact hP.move h.allowed h.alone
  | fill raw => exact hP.fill raw
  | bound name _ ih => exact hP.bound name ih
  | remembered hvars hstored _ ih => exact hP.remembered hvars hstored ih
  | asked hsuits _ _ _ ihok iherror => exact hP.asked hsuits ihok iherror
  | sought hlocates hmissing hpassed _ ihok => exact hP.sought hlocates hmissing hpassed ihok
  | click element hneeds => exact hP.click element hneeds
  | performed hsuits => exact hP.step hsuits.allowed hsuits.alone
  | @loaded _ path f hkind hpassed _ ihok =>
    refine hP.bind (hP.step (s := .act (.loadScript path)) hkind trivial) fun x => ?_
    cases x with
    | ok events => exact ihok events
    | error e =>
      rw [hpassed e]
      exact hP.fail _
  | plugin hkind hmem hcut hpassed _ ihok => exact hP.plugin hkind hmem hcut hpassed ihok
  | activate hkind hmem => exact hP.move (m := .edit (.activate _)) ⟨hkind, hmem⟩ trivial
  | told message _ hend =>
    rw [hend]
    exact hP.bind (hP.error message) fun _ => hP.fail .abort
  | rest hrests => exact hP.step hrests trivial

/-- Where every move counts for itself, looks and clicks are nothing special. -/
theorem of_moves (hpure : ∀ {α : Type} (a : α), P (Pure.pure a : Act α))
    (hfail : ∀ {α : Type} (m : Mishap), P (Act.fail m : Act α))
    (hbind : ∀ {α β : Type} {a : Act β} {f : β → Act α}, P a → (∀ b, P (f b)) → P (a >>= f))
    (hmove : ∀ {m : Move}, m.Allowed setup kind → P (Act.move m)) : Spreads setup event kind P where
  pure := hpure
  fail := hfail
  bind := hbind
  move h _ := hmove h
  fill _ := hbind (hmove (m := .session) trivial) fun _ => hpure _
  bound name _ h := hbind (hmove (m := .session) trivial) fun s => h (s.vars.contains name)
  remembered _ _ h := hbind (hmove (m := .session) trivial) h
  click element hneeds := by
    have hcall : P (Act.call (.click element)) := by
      refine hbind (hbind (hmove hneeds) fun r => ?_) fun x => ?_
      · cases r with
        | ok x => exact hpure x
        | error _ => exact hfail .abort
      · cases x with
        | ok x => exact hpure x
        | error e => exact hfail _
    exact hbind (hmove hneeds) fun _ =>
      hbind (hmove (m := .say _) fun _ heq => by cases heq) fun _ =>
        hbind hcall fun _ => hmove hneeds

end Spreads
end Act

/-! ## Parts of runs -/

namespace Stretch

variable {σ : Type} {o : Outside σ}

/-- A relation between what there is before a part of a run and after it: it holds where nothing is
done, and it goes on from one part to the next. -/
structure Chains (R : Session → World σ → Session → World σ → Prop) : Prop where
  refl : ∀ s w, R s w s w
  trans : ∀ {s w s' w' s'' w''}, R s w s' w' → R s' w' s'' w'' → R s w s'' w''

namespace Chains

variable {R : Session → World σ → Session → World σ → Prop}

theorem leads_play_bind (hR : Chains R) {a : Act β} {f : β → Act α} {s : Session} {w : World σ}
    (ha : Leads o (a.play setup) s w fun _ => R s w)
    (hf : ∀ b s w, Leads o ((f b).play setup) s w fun _ => R s w) :
    Leads o (Act.play setup (a >>= f)) s w fun _ => R s w := by
  rw [Stretch.leads_play_bind]
  refine ha.mono fun r s' w' h => ?_
  cases r with
  | ok b => exact (hf b s' w').mono fun _ _ _ h' => hR.trans h h'
  | error e => exact h

/-- What each move keeps up with, every act does. -/
theorem spreads (hR : Chains R) (hmove : ∀ {m : Move}, m.Allowed setup kind → ∀ s w,
      Leads o (m.play setup) s w fun _ => R s w) : Act.Spreads setup event kind fun a =>
        ∀ s w, Leads o (a.play setup) s w fun _ => R s w :=
  .of_moves (fun a s w => leads_play_pure a |>.2 (hR.refl s w))
    (fun m s w => leads_play_fail m |>.2 (hR.refl s w))
    (fun ha hf s w => hR.leads_play_bind (ha s w) hf)
    fun hallowed s w => leads_play_move _ |>.2 (hmove hallowed s w)

/-- What every act keeps up with, and every word to the watchdog, an event does. -/
theorem leads_passage (hR : Chains R)
    (hact : ∀ {α : Type} {a : Act α}, a.Composed setup event kind → ∀ s w,
      Leads o (a.play setup) s w fun _ => R s w)
    (hextend : ∀ d s w, R s w s (w.extend d)) {p : Passage α} (hp : p.Composed setup event kind)
    (s : Session) (w : World σ) : Leads o p.run s w fun _ => R s w := by
  induction hp generalizing s w with
  | pure a => exact leads_run_pure a |>.2 (hR.refl s w)
  | act ha => exact hact ha s w
  | extend d _ => exact leads_passage_extend d |>.2 (hextend d s w)
  | bind _ _ ihp ihf =>
    rw [leads_run_bind]
    refine (ihp s w).mono fun r s' w' h => ?_
    cases r with
    | ok b => exact (ihf b s' w').mono fun _ _ _ h' => hR.trans h h'
    | error e => exact h

end Chains
end Stretch
end PageScript
