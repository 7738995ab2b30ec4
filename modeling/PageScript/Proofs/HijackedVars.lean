import Mathlib.Data.List.Forall2
import PageScript.Proofs.AllowedMoves
import PageScript.Proofs.Course

/-!
# What is hijacked does not show

A value that overrides a variable is seen in its place wherever a text is filled in. So two stacks
of scopes that bind the same names, and to the same values but for names that are overridden, cannot
be told apart: every text comes out the same, and no name is bound in the one and unbound in the
other.

Without plugins nothing else looks at a variable. What an event does to one of two such stacks it
does to the other, and they go on being alike, through the scopes of rows and through included
scripts. A run that starts with the one and a run that starts with the other are therefore the same
program: they ask for the same, whatever they are answered, and come to the same end.
-/

namespace PageScript

variable {σ α β γ δ ε : Type}

/-! ## Stacks of scopes -/

/-- Two scopes bind the same names, and to the same values unless a name is overridden. -/
structure Scope.Alike (hijacks : Hijacks) (s s' : Scope) : Prop where
  has_eq : ∀ name, Bindings.has s' name = Bindings.has s name
  get?_eq : ∀ name, hijacks.has name = false → Bindings.get? s' name = Bindings.get? s name

/-- Two stacks bind the same names in the same scopes, and to the same values unless a name is
overridden. -/
structure Vars.Alike (hijacks : Hijacks) (v v' : Vars) : Prop where
  flat_eq : v'.flat = v.flat
  scopes : List.Forall₂ (Scope.Alike hijacks) v.scopes v'.scopes

section Scopes

variable {hijacks : Hijacks} {s s' : Scope} {v v' : Vars} {scopes scopes' : List Scope}

namespace Scope.Alike

theorem refl (hijacks : Hijacks) (s : Scope) : s.Alike hijacks s := ⟨fun _ => rfl, fun _ _ => rfl⟩

/-- The values that are put may differ where the name is overridden. -/
theorem put (h : s.Alike hijacks s') {name value value' : String}
    (hvalue : hijacks.has name = false → value' = value) :
    Scope.Alike hijacks (Bindings.put name value s) (Bindings.put name value' s') where
  has_eq other := by
    have hhas := h.has_eq other
    unfold Bindings.has at hhas ⊢
    rw [Bindings.get?_put, Bindings.get?_put]
    split
    · rfl
    · exact hhas
  get?_eq other hfree := by
    rw [Bindings.get?_put, Bindings.get?_put, h.get?_eq other hfree]
    split
    · rename_i heq
      rw [hvalue (heq ▸ hfree)]
    · rfl

theorem erase (h : s.Alike hijacks s') (name : String) :
    Scope.Alike hijacks (Bindings.erase name s) (Bindings.erase name s') where
  has_eq other := by
    have hhas := h.has_eq other
    unfold Bindings.has at hhas ⊢
    rw [Bindings.get?_erase, Bindings.get?_erase]
    split
    · rfl
    · exact hhas
  get?_eq other hfree := by
    rw [Bindings.get?_erase, Bindings.get?_erase, h.get?_eq other hfree]

end Scope.Alike

/-- What is done to the first scope that binds a name leaves stacks alike if it leaves scopes so. -/
theorem alike_changeFirst (h : List.Forall₂ (Scope.Alike hijacks) scopes scopes') (name : String)
    {change change' : Scope → Scope}
    (hchange : ∀ s s' : Scope, s.Alike hijacks s' → (change s).Alike hijacks (change' s')) :
    List.Forall₂ (Scope.Alike hijacks) (Vars.changeFirst name change scopes)
      (Vars.changeFirst name change' scopes') := by
  induction h with
  | nil => exact .nil
  | cons hs htail ih =>
    rw [Vars.changeFirst, Vars.changeFirst, hs.has_eq name]
    split
    · exact .cons (hchange _ _ hs) htail
    · exact .cons hs ih

theorem isSome_find?_eq (h : List.Forall₂ (Scope.Alike hijacks) scopes scopes') (name : String) :
    (Vars.find? name scopes').isSome = (Vars.find? name scopes).isSome := by
  induction h with
  | nil => rfl
  | cons hs _ ih =>
    have hhas := hs.has_eq name
    unfold Bindings.has at hhas
    unfold Vars.find? at ih ⊢
    rw [List.findSome?_cons, List.findSome?_cons]
    split <;> split <;> simp_all

theorem find?_eq (h : List.Forall₂ (Scope.Alike hijacks) scopes scopes') {name : String}
    (hfree : hijacks.has name = false) : Vars.find? name scopes' = Vars.find? name scopes := by
  induction h with
  | nil => rfl
  | cons hs _ ih =>
    unfold Vars.find? at ih ⊢
    rw [List.findSome?_cons, List.findSome?_cons, hs.get?_eq name hfree, ih]

namespace Vars.Alike

theorem refl (hijacks : Hijacks) (v : Vars) : v.Alike hijacks v :=
  ⟨rfl, List.forall₂_same.2 fun s _ => .refl hijacks s⟩

theorem newest (h : v.Alike hijacks v') : v.newest.Alike hijacks v'.newest :=
  (List.forall₂_cons.1 h.scopes).1

theorem older (h : v.Alike hijacks v') :
    List.Forall₂ (Scope.Alike hijacks) v.older v'.older :=
  (List.forall₂_cons.1 h.scopes).2

theorem contains_eq (h : v.Alike hijacks v') (name : String) :
    v'.contains name = v.contains name :=
  isSome_find?_eq h.scopes name

theorem put (h : v.Alike hijacks v') {name value value' : String}
    (hvalue : hijacks.has name = false → value' = value) :
    (v.put name value).Alike hijacks (v'.put name value') := by
  unfold Vars.put
  rw [h.newest.has_eq name, h.contains_eq name]
  split
  · exact ⟨h.flat_eq, .cons (h.newest.put hvalue) h.older⟩
  · exact ⟨h.flat_eq, .cons h.newest (alike_changeFirst h.older name fun _ _ hs => hs.put hvalue)⟩

theorem erase (h : v.Alike hijacks v') (name : String) :
    (v.erase name).Alike hijacks (v'.erase name) := by
  unfold Vars.erase
  rw [h.newest.has_eq name]
  split
  · exact ⟨h.flat_eq, .cons (h.newest.erase name) h.older⟩
  · exact ⟨h.flat_eq, .cons h.newest (alike_changeFirst h.older name fun _ _ hs => hs.erase name)⟩

theorem push (h : v.Alike hijacks v') : v.push.Alike hijacks v'.push := by
  unfold Vars.push
  rw [h.flat_eq]
  split
  · exact h
  · exact ⟨rfl, .cons (.refl hijacks []) h.scopes⟩

/-- A row binds its cells in a scope of its own. -/
theorem enterRow (h : v.Alike hijacks v') (cells : Row) :
    (cells.foldl (fun v c => v.put c.1 c.2) v.push).Alike hijacks
      (cells.foldl (fun v c => v.put c.1 c.2) v'.push) := by
  have hpush := h.push
  generalize v.push = u at hpush
  generalize v'.push = u' at hpush
  induction cells generalizing u u' with
  | nil => exact hpush
  | cons c cells ih => exact ih _ _ (hpush.put fun _ => rfl)

/-- Either both scopes can be left, or neither. -/
theorem pop (h : v.Alike hijacks v') :
    (∃ u u' : Vars, v.pop = .ok u ∧ v'.pop = .ok u' ∧ u.Alike hijacks u') ∨
      ∃ e, v.pop = .error e ∧ v'.pop = .error e := by
  unfold Vars.pop
  rw [h.flat_eq]
  split
  · exact .inl ⟨v, v', rfl, rfl, h⟩
  · have holder := h.older
    revert holder
    cases v.older <;> cases v'.older <;> intro holder
    · exact .inr ⟨_, rfl, rfl⟩
    · cases holder
    · cases holder
    · exact .inl ⟨_, _, rfl, rfl, rfl, holder⟩

end Vars.Alike

/-- **What is overridden does not show in any text.** -/
theorem substitute_alike (h : v.Alike hijacks v') (raw : String) :
    substitute hijacks v' raw = substitute hijacks v raw := by
  have hresolve (name : List Char) :
      Template.resolve? hijacks v' name = Template.resolve? hijacks v name := by
    unfold Template.resolve?
    split
    · rfl
    · cases hget : hijacks.get? (String.ofList name) with
      | some value => rfl
      | none =>
        have hfree : hijacks.has (String.ofList name) = false := by
          rw [Bindings.has, hget]
          rfl
        exact congrArg _ (find?_eq h.scopes hfree)
  have htoken : Template.tokenValue hijacks v' = Template.tokenValue hijacks v := by
    funext name
    rw [Template.tokenValue, Template.tokenValue, hresolve name]
  rw [substitute, substitute, Template.expand, Template.expand, htoken]

end Scopes

/-! ## Programs -/

/-- Two programs ask for the same, whatever they are answered, and come to results that are as
said. -/
inductive Program.Alike {Request : Type} {Answer : Request → Type} (R : α → β → Prop) :
    Program Request Answer α → Program Request Answer β → Prop where
  | done {a : α} {b : β} : R a b → Alike R (.done a) (.done b)
  | ask (r : Request) {next : Answer r → Program Request Answer α}
      {next' : Answer r → Program Request Answer β} :
      (∀ x, Alike R (next x) (next' x)) → Alike R (.ask r next) (.ask r next')

namespace Program

variable {Request : Type} {Answer : Request → Type} {p : Program Request Answer α}
  {p' : Program Request Answer β}

theorem Alike.bind {R : α → β → Prop} {S : γ → δ → Prop} {f : α → Program Request Answer γ}
    {f' : β → Program Request Answer δ} (h : Alike R p p')
    (hf : ∀ a b, R a b → Alike S (f a) (f' b)) : Alike S (p >>= f) (p' >>= f') := by
  induction h with
  | done hab => exact hf _ _ hab
  | ask r _ ih => exact .ask r ih

/-- A program is like itself, with whatever results. -/
theorem alike_map {R : β → γ → Prop} (p : Program Request Answer α) {f : α → β} {f' : α → γ}
    (h : ∀ a, R (f a) (f' a)) :
    Alike R (p >>= fun a => .done (f a)) (p >>= fun a => .done (f' a)) := by
  induction p with
  | done a => exact .done (h a)
  | ask r next ih => exact .ask r ih

/-- Programs that ask for the same and come to the same are the same. -/
theorem Alike.eq {p' : Program Request Answer α} (h : Alike Eq p p') : p = p' := by
  induction h with
  | done heq => exact congrArg Program.done heq
  | ask r _ ih => exact congrArg (Program.ask r) (funext ih)

end Program

/-! ## Parts of a run that cannot tell variables apart -/

/-- Two runs remember the same but for variables that are alike; and no plugin is active. -/
structure Session.Alike (hijacks : Hijacks) (s s' : Session) : Prop where
  vars : s.vars.Alike hijacks s'.vars
  rest : s' = { s with vars := s'.vars }
  plain : s.registry = []

/-- Where no plugin is active, none is dispatched. -/
theorem Session.Alike.dispatch_eq {hijacks : Hijacks} {s s' : Session} (h : s.Alike hijacks s')
    (setup : Setup) : s'.dispatch setup = s.dispatch setup := by
  funext g occasion
  rw [h.rest, Session.dispatch, Session.dispatch, h.plain]
  rfl

/-- What differs only in variables that are overridden is changed alike. -/
theorem Session.Alike.edit {hijacks : Hijacks} {s s' : Session} (h : s.Alike hijacks s')
    {e : Edit} (hinactive : ∀ r, e ≠ .activate r) : (s.edit e).Alike hijacks (s'.edit e) := by
  obtain ⟨hvars, hrest, hplain'⟩ := h
  rw [hrest]
  cases e with
  | putVar name value => exact ⟨hvars.put fun _ => rfl, rfl, hplain'⟩
  | eraseVar name => exact ⟨hvars.erase name, rfl, hplain'⟩
  | activate r => exact absurd rfl (hinactive r)
  | _ => exact ⟨hvars, rfl, hplain'⟩

/-- Part of a run that does not tell apart variables that are alike. -/
def Stretch.Blind (hijacks : Hijacks) (p : Stretch α) : Prop :=
  ∀ s s' : Session, s.Alike hijacks s' →
    Program.Alike (fun x y => x.1 = y.1 ∧ x.2.Alike hijacks y.2) (p s) (p s')

namespace Stretch

variable {hijacks : Hijacks} {setup : Setup} {event : Event}

theorem blind_pure (a : α) : (pure a : Stretch α).Blind hijacks :=
  fun _ _ h => .done ⟨rfl, h⟩

theorem Blind.bind {p : Stretch β} {f : β → Stretch α} (h : p.Blind hijacks)
    (hf : ∀ b, (f b).Blind hijacks) : (p >>= f).Blind hijacks := by
  refine fun s s' hs => (h s s' hs).bind ?_
  rintro ⟨b, t⟩ ⟨_, t'⟩ ⟨rfl, ht⟩
  exact hf b t t' ht

theorem blind_ofWorker (w : Worker α) : (ofWorker w).Blind hijacks :=
  fun _ _ h => Program.alike_map w fun _ => ⟨rfl, h⟩

theorem blind_modify {f : Session → Session}
    (h : ∀ s s' : Session, s.Alike hijacks s' → (f s).Alike hijacks (f s')) :
    (modify f : Stretch PUnit).Blind hijacks :=
  fun s s' hs => .done ⟨rfl, h s s' hs⟩

/-- What is looked at in the session may not tell such variables apart. -/
theorem blind_get_bind {f : Session → Stretch α}
    (h : ∀ s s' : Session, s.Alike hijacks s' →
      Program.Alike (fun x y => x.1 = y.1 ∧ x.2.Alike hijacks y.2) (f s s) (f s' s')) :
    (get >>= f).Blind hijacks :=
  fun s s' hs => h s s' hs

theorem Blind.map {p : Stretch β} (h : p.Blind hijacks) (f : β → α) :
    (f <$> p).Blind hijacks := by
  rw [map_eq_pure_bind]
  exact h.bind fun b => blind_pure (f b)

/-- Where no plugin is active an occasion is told of, and that is all. -/
theorem blind_fire (occasion : Occasion) : (fire setup occasion).Blind hijacks := by
  refine blind_get_bind fun s s' hs => ?_
  unfold Session.fire
  rw [hs.dispatch_eq]
  exact Program.alike_map _ fun _ => ⟨rfl, hs⟩

/-! ## Parts that may end early -/

theorem Blind.run_bind {p : ExceptT ε Stretch β} {f : β → ExceptT ε Stretch α}
    (h : p.run.Blind hijacks) (hf : ∀ b, (f b).run.Blind hijacks) :
    (p >>= f).run.Blind hijacks := by
  rw [ExceptT.run_bind]
  refine h.bind fun r => ?_
  cases r with
  | ok b => exact hf b
  | error e => exact blind_pure _

theorem Blind.run_lift {p : Stretch α} (h : p.Blind hijacks) :
    (ExceptT.lift p : ExceptT ε Stretch α).run.Blind hijacks :=
  h.bind fun a => blind_pure (Except.ok a)

/-! ## Acts -/

/-- Without plugins, none is made active and none is run. -/
theorem blind_move (hplugins : setup.plugins = []) {kind : Kind} {m : Move}
    (hallowed : m.Allowed setup kind) (halone : m.Alone) :
    (m.play setup).Blind hijacks := by
  have hcatalog {r : Registration} (hmem : r ∈ Configured.catalog setup.plugins) : False := by
    rw [hplugins] at hmem
    cases hmem
  cases m with
  | say _ | step _ | now | calendar => exact blind_ofWorker _
  | edit e =>
    refine blind_modify fun s s' hs => hs.edit fun r heq => ?_
    subst heq
    exact hcatalog hallowed.2
  | plugin p element args =>
    obtain ⟨-, r, hmem, -⟩ := hallowed
    exact (hcatalog hmem).elim
  | session | aroundClick _ _ _ => cases halone

theorem blind_act_bind {a : Act β} {f : β → Act α} (h : (a.play setup).Blind hijacks)
    (hf : ∀ b, ((f b).play setup).Blind hijacks) :
    (Act.play setup (a >>= f)).Blind hijacks := by
  rw [Act.play, ExceptT.run_bind, Program.handle_bind]
  refine h.bind fun r => ?_
  cases r with
  | ok b => exact hf b
  | error e => exact blind_pure (Except.error e)

theorem blind_act_move {m : Move} (h : (m.play setup).Blind hijacks) :
    (Act.play setup (Act.move m)).Blind hijacks :=
  h.bind fun x => blind_pure (Except.ok x)

/-- What an act looks at in the session may not tell such variables apart. -/
theorem blind_session_bind {f : Session → Act α}
    (heq : ∀ s s' : Session, s.Alike setup.hijacks s' → f s' = f s)
    (h : ∀ s, ((f s).play setup).Blind setup.hijacks) :
    (Act.play setup (Act.session >>= f)).Blind setup.hijacks := by
  refine fun s s' hs => ?_
  have hplay (t : Session) : Act.play setup (Act.session >>= f) t = (f t).play setup t := rfl
  rw [hplay, hplay, heq s s' hs]
  exact h s s s' hs

theorem blind_click (element : Element) :
    (Act.play setup (Act.click event element)).Blind hijacks := by
  have haround (side : Side) :
      (Act.play setup (Act.move (.aroundClick side event element))).Blind hijacks :=
    blind_act_move (blind_fire _)
  have hcall : (Act.play setup (Act.call (.click element))).Blind hijacks := by
    refine blind_act_bind (blind_act_bind (blind_act_move (blind_ofWorker _)) fun x => ?_)
      fun x => ?_
    · cases x with
      | ok x => exact blind_pure _
      | error cut => exact blind_pure _
    · cases x with
      | ok x => exact blind_pure _
      | error e => exact blind_pure _
  exact blind_act_bind (haround .before) fun _ =>
    blind_act_bind (blind_act_move (blind_ofWorker _)) fun _ =>
      blind_act_bind hcall fun _ => haround .after

theorem spreads_blind (hplugins : setup.plugins = []) {kind : Kind} :
    Act.Spreads setup event kind fun a => (a.play setup).Blind setup.hijacks where
  pure a := blind_pure (Except.ok a)
  fail m := blind_pure (Except.error m)
  bind := blind_act_bind
  move hallowed halone := blind_act_move (blind_move hplugins hallowed halone)
  fill raw := by
    refine blind_session_bind (fun s s' hs => ?_) fun _ => blind_pure _
    rw [substitute_alike hs.vars]
  bound name _ h := by
    refine blind_session_bind (fun s s' hs => ?_) fun _ => h _
    rw [hs.vars.contains_eq]
  remembered heq _ h := blind_session_bind (fun s s' hs => by rw [hs.rest, heq]) h
  click element _ := blind_click element

/-- **Whatever an event does, it does not tell overridden variables apart**, if there are no
plugins. -/
theorem blind_passage (hplugins : setup.plugins = []) {kind : Kind} {p : Passage α}
    (hp : p.Composed setup event kind) : p.run.Blind setup.hijacks := by
  induction hp with
  | pure a => exact blind_pure _
  | act ha => exact (spreads_blind hplugins).composed ha
  | extend d _ => exact (blind_ofWorker _).run_lift
  | bind _ _ ihp ihf => exact ihp.run_bind ihf

/-! ## Traversals -/

section Traversals

variable {parent : Option Element} {follow : List Event → Option Element → Journey Unit}
  {inside children : Journey Unit} {below : Option Element → Journey Unit}

theorem blind_throw (e : ε) : (throw e : ExceptT ε Stretch α).run.Blind hijacks :=
  blind_pure (Except.error e)

theorem blind_journey_ofWorker (w : Worker α) : (Journey.ofWorker w).run.Blind hijacks :=
  (blind_ofWorker w).run_lift

theorem blind_openEvent (hplugins : setup.plugins = []) (event : Event)
    (parent : Option Element) :
    (Passage.openEvent setup event parent).run.Blind setup.hijacks :=
  ((blind_passage hplugins (Passage.composed_carryOut event parent)).run_lift).run_bind
    fun result =>
    ((blind_ofWorker _).run_lift).run_bind fun _ => blind_pure result

theorem blind_enterRow (cells : Row) : (Detour.enterRow cells).run.Blind hijacks := by
  refine ((blind_ofWorker _).run_lift).run_bind fun _ => (blind_modify fun s s' hs => ?_).run_lift
  exact ⟨hs.vars.enterRow cells, by rw [hs.rest], hs.plain⟩

theorem run_get_bind (f : Session → Detour Unit) (s : Session) :
    (get >>= f : Detour Unit).run s = (f s).run s :=
  rfl

theorem blind_leaveRow : Detour.leaveRow.run.Blind hijacks := by
  intro s s' hs
  rw [Detour.leaveRow, run_get_bind, run_get_bind]
  rcases hs.vars.pop with ⟨u, u', hu, hu', halike⟩ | ⟨e, he, he'⟩
  · rw [hu, hu']
    exact .done ⟨rfl, halike, by rw [hs.rest], hs.plain⟩
  · rw [he, he']
    exact .done ⟨rfl, hs⟩

theorem blind_orHalt (r : Except Error Unit) : (Detour.orHalt r).run.Blind hijacks := by
  cases r with
  | ok _ => exact blind_pure _
  | error e => exact blind_throw _

theorem blind_forRows (hchildren : children.run.Blind hijacks) (rows : List Row) :
    (Detour.forRows children rows).run.Blind hijacks := by
  induction rows with
  | nil => exact blind_pure _
  | cons cells rows ih =>
    refine ((blind_ofWorker _).run_lift).run_bind fun stopped => ?_
    split
    · exact blind_pure _
    · exact (blind_enterRow cells).run_bind fun _ => (hchildren.run_lift).run_bind fun result =>
        blind_leaveRow.run_bind fun _ => (blind_orHalt result).run_bind fun _ => ih

theorem blind_followInner (hfollow : ∀ events parent, (follow events parent).run.Blind hijacks)
    (hinside : inside.run.Blind hijacks) (inner : Inner) :
    (Detour.followInner follow inside parent inner).run.Blind hijacks := by
  cases inner with
  | nothing => exact blind_pure _
  | rows rows => exact blind_forRows hinside rows
  | events events =>
    exact ((hfollow events parent).run_lift).run_bind fun result => blind_orHalt result

theorem blind_report (event : Event) (failure : Failure) :
    (Journey.report event failure).run.Blind hijacks := by
  refine (blind_journey_ofWorker _).run_bind fun _ => ?_
  split
  · exact blind_journey_ofWorker _
  · split <;> exact blind_journey_ofWorker _
  · exact blind_journey_ofWorker _
  · exact (blind_journey_ofWorker _).run_bind fun _ => blind_throw _
  · exact blind_throw _

theorem blind_descend (hplugins : setup.plugins = [])
    (hbelow : ∀ element, (below element).run.Blind setup.hijacks)
    (result : Except Failure Opened) :
    (Journey.descend setup below event result).run.Blind setup.hijacks := by
  cases result with
  | error failure => exact (blind_report event failure).run_bind fun _ => blind_pure _
  | ok opened =>
    have hleave : (Journey.leave setup event opened.restore).run.Blind setup.hijacks := by
      have hrestore := blind_passage hplugins (Passage.composed_restore event opened.restore)
      refine (hrestore.run_lift).run_bind fun r => ?_
      cases r with
      | ok _ => exact blind_pure _
      | error mishap => exact blind_report event _
    unfold Journey.descend
    dsimp only
    split
    · exact (hbelow opened.element).run_bind fun _ => hleave.run_bind fun _ => blind_pure _
    · exact hleave.run_bind fun _ => blind_pure _

theorem blind_runEvent (hplugins : setup.plugins = [])
    (hfollow : ∀ events parent, (follow events parent).run.Blind setup.hijacks)
    (hinside : inside.run.Blind setup.hijacks)
    (hbelow : ∀ element, (below element).run.Blind setup.hijacks) :
    (Journey.runEvent setup follow inside below event parent).run.Blind setup.hijacks := by
  have hopening : (Detour.opening setup follow inside event parent).run.Blind setup.hijacks :=
    ((blind_openEvent hplugins event parent).map _).run_bind fun opened =>
      (blind_followInner hfollow hinside opened.inner).run_bind fun _ => blind_pure _
  refine (blind_journey_ofWorker _).run_bind fun _ => (blind_journey_ofWorker _).run_bind fun _ =>
    (hopening.run_lift).run_bind fun result =>
      (blind_descend hplugins hbelow result).run_bind fun element => ?_
  exact (blind_journey_ofWorker _).run_bind fun _ => (blind_journey_ofWorker _).run_bind fun _ =>
    (blind_fire _).run_lift

mutual

theorem blind_visitOne (hplugins : setup.plugins = [])
    (hfollow : ∀ events parent, (follow events parent).run.Blind setup.hijacks)
    (event : Event) (parent : Option Element) :
    (Journey.visitOne setup follow event parent).run.Blind setup.hijacks :=
  match event with
  | ⟨_, _, _, _, _, _, children⟩ => by
    rw [Journey.visitOne]
    exact blind_runEvent hplugins hfollow (blind_visitAll hplugins hfollow children parent)
      (blind_visitAll hplugins hfollow children)

theorem blind_visitAll (hplugins : setup.plugins = [])
    (hfollow : ∀ events parent, (follow events parent).run.Blind setup.hijacks)
    (events : List Event) (parent : Option Element) :
    (Journey.visitAll setup follow events parent).run.Blind setup.hijacks :=
  match events with
  | [] => by
    rw [Journey.visitAll]
    exact blind_pure _
  | event :: events => by
    rw [Journey.visitAll]
    refine (blind_journey_ofWorker _).run_bind fun stopped => ?_
    split
    · exact blind_journey_ofWorker _
    · exact (blind_visitOne hplugins hfollow event parent).run_bind fun _ =>
        blind_visitAll hplugins hfollow events parent

end

theorem blind_visit (hplugins : setup.plugins = []) (depth : Nat) (events : List Event)
    (parent : Option Element) :
    (Journey.visit setup depth events parent).run.Blind setup.hijacks := by
  induction depth generalizing events parent with
  | zero => exact blind_journey_ofWorker _
  | succ depth ih => exact blind_visitAll hplugins ih events parent

/-- **A whole run does not tell overridden variables apart**, if there are no plugins. -/
theorem blind_test (hplugins : setup.plugins = []) (events : List Event) :
    (Journey.test setup events).Blind setup.hijacks := by
  have hnote : Journey.noteWindow.Blind setup.hijacks := by
    refine (blind_ofWorker _).bind fun x => ?_
    split
    · exact blind_modify fun s s' hs => hs.edit fun _ heq => by cases heq
    · exact blind_pure _
  have hafter : (get >>= fun s => ofWorker (s.fireAfterTest setup)).Blind setup.hijacks := by
    refine blind_get_bind fun s s' hs => ?_
    unfold Session.fireAfterTest
    rw [hs.dispatch_eq]
    exact Program.alike_map _ fun _ => ⟨rfl, hs⟩
  refine (hnote.bind fun _ => (blind_fire _).bind fun _ =>
    blind_visit hplugins setup.nesting events none).bind fun result => ?_
  exact hafter.bind fun _ => blind_pure result

end Traversals

end Stretch

/-! ## Whole runs -/

section Runs

variable {setup : Setup} {hijacks : Hijacks} {o : Outside σ} {calendar : Calendar}
  {stopAt : Option Duration} {events : List Event} {outside : σ}

/-- The worker of a run is the same program, whichever of two sessions that are alike it starts
with. -/
theorem worker_alike (hplugins : setup.plugins = []) {s s' : Session}
    (h : s.Alike setup.hijacks s') : setup.worker events s = setup.worker events s' := by
  have htest := Stretch.blind_test hplugins events s s' h
  have hconclude : Program.Alike Eq
      (Journey.test setup events s >>= fun x => Worker.conclude x.1)
      (Journey.test setup events s' >>= fun x => Worker.conclude x.1) := by
    refine htest.bind ?_
    rintro ⟨result, t⟩ ⟨_, t'⟩ ⟨rfl, -⟩
    exact (Program.bind_done (Worker.conclude result)) ▸ Program.alike_map _ fun _ => rfl
  exact congrArg (fun p => Worker.say _ >>= fun _ => Worker.say _ >>= fun _ => p) hconclude.eq

/-- Runs a test that starts with the given variables. -/
def Setup.runFrom (setup : Setup) (vars : Vars) (o : Outside σ) (calendar : Calendar)
    (stopAt : Option Duration) (events : List Event) (outside : σ) : Option (Ended σ) :=
  let worker := setup.worker events { setup.session calendar with vars }
  let start := World.start setup calendar stopAt outside
  (World.run o worker start).map fun (outcome, w) => w.conclude stopAt.isSome outcome

theorem run_eq_runFrom : setup.run o calendar stopAt events outside =
    setup.runFrom (setup.initialVars calendar) o calendar stopAt events outside :=
  rfl

/-! ### Other globals -/

/-- The settings of a run with other globals. -/
def Setup.withGlobals (setup : Setup) (globals : Bindings String) : Setup := { setup with globals }

/-- Globals of the same names, and of the same values unless the variable of a global is overridden.
-/
def Hijacks.Hides (hijacks : Hijacks) (globals globals' : Bindings String) : Prop :=
  List.Forall₂ (fun p p' => p'.1 = p.1 ∧ (hijacks.has ("global." ++ p.1) = false → p'.2 = p.2))
    globals.sorted globals'.sorted

/-- The variables that runs start with are alike if only globals that are overridden differ. -/
theorem alike_initialVars {globals : Bindings String}
    (h : setup.hijacks.Hides setup.globals globals)
    (calendar : Calendar) : (setup.initialVars calendar).Alike setup.hijacks
      ((setup.withGlobals globals).initialVars calendar) := by
  unfold Hijacks.Hides at h
  simp only [Setup.initialVars, Setup.withGlobals]
  generalize setup.globals.sorted = pairs at h
  generalize globals.sorted = pairs' at h
  have hstart : Vars.Alike setup.hijacks _ _ := .refl setup.hijacks
    ((({} : Vars).put "stamp" calendar.stamp).put "currentdate" calendar.date)
  revert hstart
  generalize ((({} : Vars).put "stamp" calendar.stamp).put "currentdate" calendar.date) = v
  suffices ∀ v v' : Vars, v.Alike setup.hijacks v' →
      (pairs.foldl (fun v p => v.put ("global." ++ p.1) p.2) v).Alike setup.hijacks
        (pairs'.foldl (fun v p => v.put ("global." ++ p.1) p.2) v') from this v v
  induction h with
  | nil => exact fun v v' hv => hv
  | @cons p p' pairs pairs' hp _ ih =>
    intro v v' hv
    rw [List.foldl_cons, List.foldl_cons, hp.1]
    exact ih _ _ (hv.put hp.2)

/-! The rest of a run does not look at the globals. -/

section Globals

variable (globals : Bindings String)

theorem runPlugins_withGlobals (s : Session) (g : Guard) (occasion : Occasion)
    (plugins : List Plugin) : s.runPlugins (setup.withGlobals globals) g occasion plugins =
      s.runPlugins setup g occasion plugins := by
  induction plugins with
  | nil => rfl
  | cons p ps ih =>
    rw [Session.runPlugins, Session.runPlugins, ih]
    rfl

theorem dispatch_withGlobals : Session.dispatch (setup.withGlobals globals) =
    Session.dispatch setup := by
  funext s g occasion
  simp only [Session.dispatch, runPlugins_withGlobals]

theorem fire_withGlobals : Stretch.fire (setup.withGlobals globals) = Stretch.fire setup := by
  funext occasion
  rw [Stretch.fire, Stretch.fire]
  unfold Session.fire
  rw [dispatch_withGlobals]

theorem act_withGlobals (a : Act α) :
    Passage.act (setup.withGlobals globals) a = Passage.act setup a := by
  have hplay : Move.play (setup.withGlobals globals) = Move.play setup := by
    funext m
    cases m with
    | aroundClick side event element => rw [Move.play, Move.play, fire_withGlobals]
    | _ => rfl
  rw [Passage.act, Passage.act, Act.play, Act.play, hplay]

theorem locate_withGlobals (event : Event) (parent : Option Element) :
    Act.locate (setup.withGlobals globals) event parent = Act.locate setup event parent := by
  refine bind_congr fun wanted => bind_congr fun found => ?_
  rcases found with e | found
  · cases e <;> rfl
  · rfl

theorem openEvent_withGlobals : Passage.openEvent (setup.withGlobals globals) =
    Passage.openEvent setup := by
  funext event parent
  have hcarry : Passage.carryOut (setup.withGlobals globals) event parent =
      Passage.carryOut setup event parent := by
    unfold Passage.carryOut Passage.attach Passage.wait Passage.plainly Act.element Act.frame
      Act.frameTarget
    simp only [act_withGlobals, locate_withGlobals]
    split <;> rfl
  rw [Passage.openEvent, Passage.openEvent, hcarry]

theorem runEvent_withGlobals : Journey.runEvent (setup.withGlobals globals) =
    Journey.runEvent setup := by
  have hrestore : Passage.restore (setup.withGlobals globals) = Passage.restore setup := by
    funext r
    cases r <;> first | rfl | exact act_withGlobals globals _
  funext visit inside below event parent
  unfold Journey.runEvent Journey.descend Journey.leave Journey.finish Detour.opening
  rw [openEvent_withGlobals, hrestore, fire_withGlobals]

mutual

theorem visitOne_withGlobals (follow : List Event → Option Element → Journey Unit) (event : Event)
    (parent : Option Element) : Journey.visitOne (setup.withGlobals globals) follow event parent =
      Journey.visitOne setup follow event parent :=
  match event with
  | ⟨_, _, _, _, _, _, children⟩ => by
    have hbelow := funext (visitAll_withGlobals follow children)
    rw [Journey.visitOne, Journey.visitOne, hbelow, runEvent_withGlobals]

theorem visitAll_withGlobals (follow : List Event → Option Element → Journey Unit)
    (events : List Event) (parent : Option Element) :
    Journey.visitAll (setup.withGlobals globals) follow events parent =
      Journey.visitAll setup follow events parent :=
  match events with
  | [] => by rw [Journey.visitAll, Journey.visitAll]
  | event :: events => by
    rw [Journey.visitAll, Journey.visitAll, visitOne_withGlobals follow event parent,
      visitAll_withGlobals follow events parent]

end

theorem visit_withGlobals (depth : Nat) :
    Journey.visit (setup.withGlobals globals) depth = Journey.visit setup depth := by
  induction depth with
  | zero => rfl
  | succ depth ih =>
    funext events parent
    rw [Journey.visit, Journey.visit, ih, visitAll_withGlobals]

/-- What a worker does depends on the globals only through the variables it starts with. -/
theorem worker_withGlobals (s : Session) :
    (setup.withGlobals globals).worker events s = setup.worker events s := by
  have hnesting : (setup.withGlobals globals).nesting = setup.nesting := rfl
  have hmain : Journey.main (setup.withGlobals globals) events = Journey.main setup events := by
    rw [Journey.main, Journey.main, fire_withGlobals, visit_withGlobals, hnesting]
  have hafter : Session.fireAfterTest (setup.withGlobals globals) =
      Session.fireAfterTest setup := by
    funext t
    unfold Session.fireAfterTest
    rw [dispatch_withGlobals]
    rfl
  unfold Setup.worker Journey.test
  rw [hmain, hafter]
  rfl

end Globals

/-- **What is hijacked does not show.** Without plugins two runs that start with variables that are
alike are the same run, against any outside, which may keep all that it is asked for: the same
calls, reports and files in the same order, and the same outcome. So are the runs of two
configurations that differ only in globals that are overridden. -/
theorem hijacked_of_run (hplugins : setup.plugins = []) (o : Outside σ) (calendar : Calendar)
    (stopAt : Option Duration) (events : List Event) (outside : σ) :
    (∀ vars vars' : Vars, vars.Alike setup.hijacks vars' →
      setup.runFrom vars o calendar stopAt events outside =
        setup.runFrom vars' o calendar stopAt events outside) ∧
    ∀ globals, setup.hijacks.Hides setup.globals globals →
      setup.run o calendar stopAt events outside =
        (setup.withGlobals globals).run o calendar stopAt events outside := by
  have hregistry : (setup.session calendar).registry = [] := by
    rw [Setup.session, hplugins]
    rfl
  have hvars (vars vars' : Vars) (h : vars.Alike setup.hijacks vars') :
      setup.runFrom vars o calendar stopAt events outside =
        setup.runFrom vars' o calendar stopAt events outside := by
    have halike : Session.Alike setup.hijacks { setup.session calendar with vars }
        { setup.session calendar with vars := vars' } := ⟨h, rfl, hregistry⟩
    unfold Setup.runFrom
    rw [worker_alike hplugins halike]
  refine ⟨hvars, fun globals h => ?_⟩
  rw [run_eq_runFrom, hvars _ _ (alike_initialVars h calendar)]
  unfold Setup.run Setup.runFrom
  rw [worker_withGlobals]
  rfl

/-- The settings of a run in which a global is overridden. -/
def Setup.overriding (value : String) : Setup :=
  { small with hijacks := [("global.g", "hijacked")], globals := [("g", value)] }

/-- A text in which the global stands is put into a variable and logged, and then the global is
removed. -/
def Event.overridden : List Event :=
  [{ kind := .command .var, name := "var",
     actions := ⟨[("var", .text "x"), ("set", .text "\x7b@global.g\x7d!")]⟩ },
   { kind := .command .puts, name := "puts", actions := ⟨[("txt", .text "\x7b@x\x7d")]⟩ },
   { kind := .command .delete, name := "delete", actions := ⟨[("name", .text "global.g")]⟩ }]

/-- A run in which a global is overridden. -/
def Setup.overridingRun (value : String) : Option (Ended Unit) :=
  (overriding value).run .oneWindow ⟨2020, 1, 1, 0, 0, 0⟩ none Event.overridden ()

/-- Whatever the global is, the same text is logged. -/
theorem hijacked_overridingRun : (Setup.overriding "1").plugins = [] ∧
    (Setup.overriding "1").hijacks.Hides (Setup.overriding "1").globals [("g", "2")] ∧
    Setup.overridingRun "1" = Setup.overridingRun "2" ∧
    (∃ ended, Setup.overridingRun "2" = some ended ∧
      Report.log "hijacked!" ∈ ended.world.reports) ∧
    ∃ vars vars' : Vars, vars.get? "global.g" = some "1" ∧ vars'.get? "global.g" = some "2" ∧
      vars.Alike (Setup.overriding "1").hijacks vars' ∧
      (Setup.overriding "1").runFrom vars .oneWindow ⟨2020, 1, 1, 0, 0, 0⟩ none
          Event.overridden () =
        (Setup.overriding "1").runFrom vars' .oneWindow ⟨2020, 1, 1, 0, 0, 0⟩ none
          Event.overridden () := by
  have hhides : (Setup.overriding "1").hijacks.Hides (Setup.overriding "1").globals
      [("g", "2")] := by
    unfold Hijacks.Hides
    simp [Setup.overriding, Bindings.sorted, Bindings.has, Bindings.get?]
  have hplugins : (Setup.overriding "1").plugins = [] := rfl
  obtain ⟨hvars, hglobals⟩ := hijacked_of_run hplugins .oneWindow ⟨2020, 1, 1, 0, 0, 0⟩ none
    Event.overridden ()
  have heq : Setup.overridingRun "1" = Setup.overridingRun "2" := hglobals _ hhides
  have hlogged : (Setup.overridingRun "1").map (fun ended =>
      decide (Report.log "hijacked!" ∈ ended.world.reports)) = some true := by
    decide +kernel
  rw [heq] at hlogged
  obtain ⟨ended, hrun, hmem⟩ := Option.map_eq_some_iff.1 hlogged
  have halike := alike_initialVars hhides ⟨2020, 1, 1, 0, 0, 0⟩
  exact ⟨hplugins, hhides, heq, ⟨ended, hrun, of_decide_eq_true hmem⟩, _, _, by decide +kernel,
    by decide +kernel, halike, hvars _ _ halike⟩

end Runs
end PageScript
