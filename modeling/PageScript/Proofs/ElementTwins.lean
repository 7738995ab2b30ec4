import PageScript.Proofs.AllowedMoves
import PageScript.Proofs.ElementPairs

/-!
# Events that differ in their elements

Every part of a run goes on side by side with itself where two runs have been given different
elements. Most parts have nothing to do with elements: they are steady, and come to the same result
in both runs. What is left is to find an element and to act on it, to switch to a frame, and to drag
one kept element onto another. The result of such a part may be an element, which in the other run
is another one in the same place.

An event that acts on an element also hands itself to the plugins around a click. They are told of
its name only, so that two events side by side may besides differ in their children.
-/

namespace PageScript

variable {α β γ δ ε : Type} {E : Element → Element → Prop}

/-! ## Stretches -/

/-- Two parts of runs are paired wherever the two runs remember the same but for elements, and so
they do at the end. -/
def Stretch.Twins (E : Element → Element → Prop) (p : Stretch α) (p' : Stretch β)
    (R : α → β → Prop) : Prop :=
  ∀ s s' : Session, s.Akin E s' →
    Worker.Paired E (fun x y => R x.1 y.1 ∧ x.2.Akin E y.2) (p s) (p' s')

namespace Stretch

variable {R : α → β → Prop} {S : γ → δ → Prop} {p : Stretch α} {p' : Stretch β}

theorem twins_pure {a : α} {b : β} (h : R a b) : Twins E (pure a) (pure b) R :=
  fun _ _ hs => .done ⟨h, hs⟩

theorem Twins.bind {f : α → Stretch γ} {f' : β → Stretch δ} (h : Twins E p p' R)
    (hf : ∀ a b, R a b → Twins E (f a) (f' b) S) : Twins E (p >>= f) (p' >>= f') S :=
  fun s s' hs => (h s s' hs).bind fun x y hxy => hf x.1 y.1 hxy.1 x.2 y.2 hxy.2

/-- What comes after the same result in both. -/
theorem Twins.bind_eq {p p' : Stretch α} {f : α → Stretch γ} {f' : α → Stretch δ}
    (h : Twins E p p' Eq) (hf : ∀ a, Twins E (f a) (f' a) S) :
    Twins E (p >>= f) (p' >>= f') S :=
  h.bind fun a _ heq => heq ▸ hf a

theorem Twins.mono {T : α → β → Prop} (h : Twins E p p' R) (imp : ∀ a b, R a b → T a b) :
    Twins E p p' T :=
  fun s s' hs => (h s s' hs).mono fun _ _ hxy => ⟨imp _ _ hxy.1, hxy.2⟩

theorem twins_ofWorker {w : Worker α} {w' : Worker β} (h : Worker.Paired E R w w') :
    Twins E (ofWorker w) (ofWorker w') R :=
  fun _ _ hs => h.bind fun _ _ hab => .done ⟨hab, hs⟩

theorem twins_modify {f f' : Session → Session}
    (h : ∀ s s' : Session, s.Akin E s' → (f s).Akin E (f' s')) :
    Twins E (modify f : Stretch PUnit) (modify f') Eq :=
  fun s s' hs => .done ⟨rfl, h s s' hs⟩

theorem twins_get_bind {f f' : Session → Stretch α} {R : α → α → Prop}
    (h : ∀ s s' : Session, s.Akin E s' → Twins E (f s) (f' s') R) :
    Twins E (get >>= f) (get >>= f') R :=
  fun s s' hs => h s s' hs s s' hs

theorem Twins.map {f : α → γ} {f' : β → δ} (h : Twins E p p' R)
    (hf : ∀ a b, R a b → S (f a) (f' b)) : Twins E (f <$> p) (f' <$> p') S := by
  rw [map_eq_pure_bind, map_eq_pure_bind]
  exact h.bind fun a b hab => twins_pure (hf a b hab)

theorem twins_fire {setup : Setup} {o o' : Occasion} (h : o.Akin E o') :
    Twins E (fire setup o) (fire setup o') Eq :=
  twins_get_bind fun _ _ hs => twins_ofWorker (paired_fire hs h)

/-! ### Parts that may end early -/

theorem Twins.run_bind {p : ExceptT ε Stretch α} {p' : ExceptT ε Stretch β}
    {f : α → ExceptT ε Stretch γ} {f' : β → ExceptT ε Stretch δ}
    (h : Twins E p.run p'.run (Agrees R))
    (hf : ∀ a b, R a b → Twins E (f a).run (f' b).run (Agrees S)) :
    Twins E (p >>= f).run (p' >>= f').run (Agrees S) := by
  rw [ExceptT.run_bind, ExceptT.run_bind]
  refine h.bind fun r r' hr => ?_
  cases hr with
  | ok hab => exact hf _ _ hab
  | error e => exact twins_pure (.error e)

theorem Twins.run_bind_eq {p p' : ExceptT ε Stretch α} {f : α → ExceptT ε Stretch γ}
    {f' : α → ExceptT ε Stretch δ} (h : Twins E p.run p'.run (Agrees Eq))
    (hf : ∀ a, Twins E (f a).run (f' a).run (Agrees S)) :
    Twins E (p >>= f).run (p' >>= f').run (Agrees S) :=
  h.run_bind fun a _ heq => heq ▸ hf a

theorem twins_run_get_bind {f f' : Session → ExceptT ε Stretch α} {R : Except ε α → Except ε α → Prop}
    (h : ∀ s s' : Session, s.Akin E s' → Twins E (f s).run (f' s').run R) :
    Twins E (get >>= f : ExceptT ε Stretch α).run (get >>= f' : ExceptT ε Stretch α).run R :=
  fun s s' hs => h s s' hs s s' hs

theorem Twins.run_lift {p : Stretch α} {p' : Stretch β} (h : Twins E p p' R) :
    Twins E (ExceptT.lift p : ExceptT ε Stretch α).run (ExceptT.lift p' : ExceptT ε Stretch β).run
      (Agrees R) :=
  h.bind fun _ _ hab => twins_pure (.ok hab)

end Stretch

/-! ## Acts -/

/-- Events of a kind have nothing to do with elements. -/
def Kind.isElementless : Kind → Bool
  | .command .dnd | .command .javaplugin => false
  | .command _ => true
  | .markup _ | .frame | .control _ => false

theorem Kind.not_needsElement {kind : Kind} (hkind : kind.isElementless = true) :
    ¬ kind.can .needsElement = true := by
  cases kind with
  | command c => cases c <;> decide
  | markup _ | frame | control _ => cases hkind

/-- Such events call the browser for nothing that has to do with elements. -/
theorem Call.Allowed.isBare {c : Call} {kind : Kind} (h : c.Allowed kind)
    (hkind : kind.isElementless = true) : c.isBare = true := by
  have hframe (h : kind = .frame) : False := by
    rw [h] at hkind
    cases hkind
  cases c with
  | find _ _ _ =>
    exact h.elim (fun h => (hframe h).elim) fun h => absurd h (kind.not_needsElement hkind)
  | switchToFrame _ => exact (hframe h).elim
  | dragAndDrop _ _ =>
    rw [show kind = .command .dnd from h] at hkind
    cases hkind
  | click _ | text _ | value _ | setValue _ _ | appendValue _ _ | clear _ | isSelected _
  | isEnabled _ | selectOption _ _ | fireEvent _ _ => exact absurd h (kind.not_needsElement hkind)
  | _ => rfl

namespace Act

variable {setup : Setup} {R : α → β → Prop} {S : γ → δ → Prop}

/-- Two acts that are paired. -/
def Twins (E : Element → Element → Prop) (setup : Setup) (a : Act α) (a' : Act β)
    (R : α → β → Prop) : Prop :=
  Stretch.Twins E (a.play setup) (a'.play setup) (Agrees R)

/-- An act that comes to the same result in both runs. -/
def Steady (E : Element → Element → Prop) (setup : Setup) (a : Act α) : Prop :=
  Twins E setup a a Eq

theorem twins_pure {a : α} {b : β} (h : R a b) : Twins E setup (pure a) (pure b) R :=
  Stretch.twins_pure (.ok h)

theorem twins_fail (m : Mishap) : Twins E setup (fail m) (fail m) R :=
  Stretch.twins_pure (.error m)

theorem Twins.bind {a : Act α} {a' : Act β} {f : α → Act γ} {f' : β → Act δ}
    (h : Twins E setup a a' R) (hf : ∀ b b', R b b' → Twins E setup (f b) (f' b') S) :
    Twins E setup (a >>= f) (a' >>= f') S := by
  rw [Twins, Act.play, Act.play, ExceptT.run_bind, ExceptT.run_bind, Program.handle_bind,
    Program.handle_bind]
  refine Stretch.Twins.bind h fun r r' hr => ?_
  cases hr with
  | ok hab => exact hf _ _ hab
  | error e => exact Stretch.twins_pure (.error e)

/-- What comes after the same result in both runs. -/
theorem Twins.then {a a' : Act α} {f : α → Act γ} {f' : α → Act δ} (h : Twins E setup a a' Eq)
    (hf : ∀ b, Twins E setup (f b) (f' b) S) : Twins E setup (a >>= f) (a' >>= f') S :=
  h.bind fun b _ heq => heq ▸ hf b

theorem Steady.then {a : Act α} {f : α → Act γ} {f' : α → Act δ} (h : Steady E setup a)
    (hf : ∀ b, Twins E setup (f b) (f' b) S) : Twins E setup (a >>= f) (a >>= f') S :=
  Twins.then h hf

theorem Steady.bind {a : Act α} {f : α → Act γ} (h : Steady E setup a)
    (hf : ∀ b, Steady E setup (f b)) : Steady E setup (a >>= f) :=
  Twins.then h hf

theorem steady_pure (a : α) : Steady E setup (pure a) := twins_pure rfl

theorem steady_fail (m : Mishap) : Steady E setup (fail m : Act α) := twins_fail m

theorem twins_move {m m' : Move} {A : m.Answer → m'.Answer → Prop}
    (h : Stretch.Twins E (m.play setup) (m'.play setup) A) :
    Twins E setup (Act.move m) (Act.move m') A :=
  Stretch.Twins.bind h fun _ _ hab => Stretch.twins_pure (.ok hab)

theorem twins_session_bind {f : Session → Act α} {f' : Session → Act β}
    (h : ∀ s s' : Session, s.Akin E s' → Twins E setup (f s) (f' s') R) :
    Twins E setup (session >>= f) (session >>= f') R :=
  fun s s' hs => h s s' hs s s' hs

/-- What an act looks at in the session is the same in both runs, as long as it is no element. -/
theorem steady_session_bind {f : Session → Act α} (heq : ∀ s stored, f { s with stored } = f s)
    (h : ∀ s, Steady E setup (f s)) : Steady E setup (session >>= f) := by
  refine twins_session_bind fun s s' hs => ?_
  rw [(congrArg f hs.rest).trans (heq s _)]
  exact h s

theorem steady_say (r : Remark) : Steady E setup (say r) :=
  twins_move (Stretch.twins_ofWorker (Worker.paired_say (.refl _)))

theorem steady_orAbort (r : Except Cut α) : Steady E setup (orAbort r) := by
  cases r with
  | ok x => exact steady_pure x
  | error _ => exact steady_fail .abort

/-- What a call answers is alike in both runs; where the call has failed, so it has in both. -/
theorem twins_attempt {c c' : Call} {A : c.Answer → c'.Answer → Prop} (h : c.Akin E c' A) :
    Twins E setup (attempt c) (attempt c') (Agrees A) := by
  have hmove : Twins E setup (Act.move (.step (.act (.call c))))
      (Act.move (.step (.act (.call c')))) _ :=
    twins_move (Stretch.twins_ofWorker (Worker.paired_call _ h))
  refine hmove.bind fun r r' hr => ?_
  cases hr with
  | ok hab => exact twins_pure hab
  | error e => exact twins_fail .abort

theorem twins_call {c c' : Call} {A : c.Answer → c'.Answer → Prop} (h : c.Akin E c' A) :
    Twins E setup (call c) (call c') A := by
  refine (twins_attempt h).bind fun r r' hr => ?_
  cases hr with
  | ok hab => exact twins_pure hab
  | error e => exact twins_fail _

theorem twins_when {c : Prop} [Decidable c] {a a' : Act Unit} (h : Twins E setup a a' Eq) :
    Twins E setup (if c then a else pure ()) (if c then a' else pure ()) Eq := by
  split
  · exact h
  · exact twins_pure rfl

/-! ### Events that have nothing to do with elements -/

section Elementless

variable {event : Event} {kind : Kind}

theorem steady_move (hsetup : kind = .command .pluginloader → setup.Steady E)
    (hkind : kind.isElementless = true) {m : Move} (hallowed : m.Allowed setup kind)
    (halone : m.Alone) : Steady E setup (Act.move m) := by
  refine twins_move ?_
  cases m with
  | say r => exact Stretch.twins_ofWorker (Worker.paired_say (.refl r))
  | now => exact Stretch.twins_ofWorker (Worker.paired_inner (r := .now) rfl)
  | calendar => exact Stretch.twins_ofWorker (Worker.paired_inner (r := .calendar) rfl)
  | step st =>
    by_cases hcall : ∃ c, st = .act (.call c)
    · obtain ⟨c, rfl⟩ := hcall
      refine Stretch.twins_ofWorker ((Worker.paired_call _ (.bare ?_)).mono fun _ _ hr => ?_)
      · exact Call.Allowed.isBare hallowed hkind
      · exact (hr.mono fun _ _ => Agrees.eq).eq
    · have hinner : (Request.step (.untilStop none) st).isInner = true := by
        unfold Request.isInner
        split
        · rename_i heq
          exact absurd ⟨_, (Request.step.inj heq).2⟩ hcall
        · rfl
      exact Stretch.twins_ofWorker (Worker.paired_guarded _ hinner)
  | edit e =>
    refine Stretch.twins_modify fun s s' hs => hs.edit (fun name x heq => ?_) fun r heq => ?_
    · subst heq
      exact kind.not_needsElement hkind hallowed
    · subst heq
      exact hsetup hallowed.1 r hallowed.2
  | plugin p element args =>
    rw [hallowed.1] at hkind
    cases hkind
  | session | aroundClick _ _ _ => cases halone

/-- **An event that has nothing to do with elements does the same in both runs.** -/
theorem steady_act (hsetup : kind = .command .pluginloader → setup.Steady E)
    (hkind : kind.isElementless = true) {a : Act α} (ha : a.Composed setup event kind) :
    Steady E setup a := by
  have hdnd : kind ≠ .command .dnd := by
    rintro rfl
    cases hkind
  have hspreads : Spreads setup event kind fun a => Steady E setup a := {
    pure := steady_pure
    fail := steady_fail
    bind := Steady.bind
    move := steady_move hsetup hkind
    fill := fun raw => steady_session_bind (fun _ _ => rfl) fun _ => steady_pure _
    bound := fun name _ h => steady_session_bind (fun _ _ => rfl) fun s => h (s.vars.contains name)
    remembered := fun _ hstored h => steady_session_bind (hstored hdnd) h
    click := fun element hneeds => absurd hneeds (kind.not_needsElement hkind) }
  exact hspreads.composed ha

/-- What every event makes use of comes to the same in both runs. -/
theorem steady_any (event : Event) {a : Act α} (ha : a.Composed setup event (.command .arg)) :
    Steady E setup a :=
  steady_act (fun heq => by cases heq) rfl ha

/-- An action may be there or not. -/
theorem twins_action?_bind {name : String} {f : Option String → Act γ} {f' : Option String → Act δ}
    (hsome : ∀ text, Twins E setup (f (some text)) (f' (some text)) S)
    (hnone : Twins E setup (f none) (f' none) S) :
    Twins E setup (action? setup event name >>= f) (action? setup event name >>= f') S := by
  refine (steady_any event (composed_action? name)).then fun text => ?_
  cases text with
  | some text => exact hsome text
  | none => exact hnone

end Elementless

/-! ### Elements and frames -/

section Elements

variable {event : Event} {element element' : Element} {parent parent' : Option Element}

theorem twins_locate (hparent : Option.Rel E parent parent') :
    Twins E setup (locate setup event parent) (locate setup event parent') E := by
  have htell (description : String) : Steady E setup (tellMissing event description) := by
    unfold tellMissing
    split <;> exact steady_say _
  refine (steady_any event composed_selectors).then fun wanted => ?_
  have hfind : Twins E setup (attempt (.find wanted parent setup.elementPatience))
      (attempt (.find wanted parent' setup.elementPatience)) (Agrees E) :=
    twins_attempt (.find wanted setup.elementPatience hparent)
  refine hfind.bind fun found found' h => ?_
  cases h with
  | ok he =>
    dsimp only
    split
    · exact (steady_say _).then fun _ => twins_fail _
    · exact twins_pure he
  | error e =>
    cases e with
    | noSuchElement description => exact (htell _).then fun _ => twins_fail _
    | _ => exact twins_fail _

variable (children : List Event) (he : E element element')

include he

theorem twins_click :
    Twins E setup (click event element) (click { event with children } element') Eq := by
  have haround (side : Side) : Twins E setup (Act.move (.aroundClick side event element))
      (Act.move (.aroundClick side { event with children } element')) Eq :=
    twins_move (Stretch.twins_fire ⟨rfl, rfl, .some he⟩)
  have hcall : Twins E setup (call (.click element)) (call (.click element')) Eq :=
    twins_call (.click he)
  exact (haround .before).then fun _ => (steady_say _).then fun _ => hcall.then fun _ =>
    haround .after

theorem twins_setState (wanted : Bool) : Twins E setup (setState event element wanted)
    (setState { event with children } element' wanted) Eq := by
  unfold setState
  split
  · exact steady_say _
  · have hcall : Twins E setup (call (.isSelected element)) (call (.isSelected element')) Eq :=
      twins_call (.isSelected he)
    refine hcall.then fun actual => ?_
    split
    · exact steady_say _
    · exact (steady_say _).then fun _ => twins_click children he

theorem twins_set :
    Twins E setup (set setup event element) (set setup { event with children } element') Eq := by
  unfold set
  dsimp only
  split
  · exact twins_setState children he _
  · refine (steady_any event (.fill _)).then fun value => ?_
    split
    · exact (steady_say _).then fun _ => twins_call (.selectOption _ he)
    · exact (steady_say _).then fun _ => twins_call (.setValue _ he)
  · exact steady_pure ()

omit children in
theorem twins_content (kind : Kind) :
    Twins E setup (content kind element) (content kind element') Eq := by
  unfold content
  split
  · exact twins_call (.value he)
  · exact twins_call (.text he)

theorem twins_actOn :
    Twins E setup (actOn setup event element) (actOn setup { event with children } element') Eq := by
  have hkeep :
      Twins E setup (keep setup event element) (keep setup { event with children } element') Eq := by
    refine twins_action?_bind (fun name => ?_) (twins_pure rfl)
    have hsay : Twins E setup
        (note .debug .elements "Storing element" [("name", name), ("element", element.id)])
        (note .debug .elements "Storing element" [("name", name), ("element", element'.id)]) Eq :=
      twins_move (Stretch.twins_ofWorker (Worker.paired_say (.stored name he)))
    have hstore : Twins E setup (Act.move (.edit (.store name element)))
        (Act.move (.edit (.store name element'))) Eq :=
      twins_move (Stretch.twins_modify fun _ _ hs => hs.store name he)
    exact hsay.then fun _ => hstore
  have hdisabled : Twins E setup (checkDisabled event element)
      (checkDisabled { event with children } element') Eq := by
    unfold checkDisabled
    dsimp only
    split
    · have hcall : Twins E setup (call (.isEnabled element)) (call (.isEnabled element')) Eq :=
        twins_call (.isEnabled he)
      exact hcall.then fun _ => twins_when (steady_say _)
    · exact twins_pure rfl
  have hsaid (message : String) (c c' : Call) {A : c.Answer → c'.Answer → Prop}
      (h : c.Akin E c' A) :
      Twins E setup (log message >>= fun _ => call c) (log message >>= fun _ => call c') A :=
    (steady_say _).then fun _ => twins_call h
  have hclear : Twins E setup (clear event element) (clear { event with children } element') Eq :=
    twins_when (hsaid _ (.clear element) (.clear element') (.clear he))
  have hselect : Twins E setup (selectValue setup event element)
      (selectValue setup { event with children } element') Eq :=
    twins_action?_bind (fun _ => hsaid _ (.selectOption element _) (.selectOption element' _)
      (.selectOption _ he)) (twins_pure rfl)
  have happend : Twins E setup (append setup event element)
      (append setup { event with children } element') Eq :=
    twins_action?_bind (fun _ => hsaid _ (.appendValue element _) (.appendValue element' _)
      (.appendValue _ he)) (twins_pure rfl)
  have hcheck : Twins E setup (checkContent setup event element)
      (checkContent setup { event with children } element') Eq :=
    (steady_any event (composed_action? _)).then fun _ =>
      (steady_any event (composed_action? _)).then fun _ =>
        twins_when ((twins_content he _).then fun _ => steady_any event (composed_check _ _ _))
  have hread : Twins E setup (readContent setup event element)
      (readContent setup { event with children } element') Eq :=
    twins_action?_bind (fun _ => (twins_content he _).then fun _ =>
      (steady_say _).then fun _ => steady_any event (composed_edit trivial)) (twins_pure rfl)
  have hfire : Twins E setup (firePageEvent setup event element)
      (firePageEvent setup { event with children } element') Eq :=
    twins_action?_bind (fun _ => hsaid _ (.fireEvent element _) (.fireEvent element' _)
      (.fireEvent _ he)) (twins_pure rfl)
  have hclick : Twins E setup (maybeClick event element)
      (maybeClick { event with children } element') Eq :=
    twins_when (twins_click children he)
  exact hkeep.then fun _ => hdisabled.then fun _ => hclear.then fun _ =>
    (twins_set children he).then fun _ => hselect.then fun _ => happend.then fun _ =>
    hcheck.then fun _ => hread.then fun _ => hfire.then fun _ => hclick.then fun _ =>
    steady_any event composed_answerAlert

omit he

theorem twins_element (hparent : Option.Rel E parent parent') :
    Twins E setup (Act.element setup event parent)
      (Act.element setup { event with children } parent') E :=
  (twins_locate hparent).bind fun _ _ he => (twins_actOn children he).then fun _ => twins_pure he

omit children

theorem twins_frame (hparent : Option.Rel E parent parent') :
    Twins E setup (frame setup event parent) (frame setup event parent') Eq := by
  have htarget : Twins E setup (frameTarget setup event parent) (frameTarget setup event parent')
      (FrameTarget.Akin E) := by
    refine (steady_any event (composed_fill? _)).then fun raw => ?_
    cases raw with
    | some raw =>
      dsimp only
      split
      · exact twins_pure (.refl _)
      · exact twins_fail _
    | none =>
      refine (steady_any event (composed_fill? _)).then fun name => ?_
      cases name with
      | some name => exact twins_pure (.refl _)
      | none =>
        dsimp only
        split
        · exact (twins_locate hparent).bind fun _ _ he => twins_pure (.element he)
        · exact twins_fail _
  refine htarget.bind fun target target' h => ?_
  have hsay : Twins E setup (log ("Switching to frame " ++ target.shown ++ "."))
      (log ("Switching to frame " ++ target'.shown ++ ".")) Eq :=
    twins_move (Stretch.twins_ofWorker (Worker.paired_say (.switched h)))
  have hcall : Twins E setup (attempt (.switchToFrame target)) (attempt (.switchToFrame target'))
      (Agrees Eq) := twins_attempt (.switchToFrame h)
  refine hsay.then fun _ => hcall.bind fun r r' hr => ?_
  cases hr with
  | ok _ => exact twins_pure rfl
  | error e =>
    cases e with
    | noSuchFrame description => exact (steady_say _).then fun _ => twins_fail _
    | _ => exact twins_fail _

/-- The elements that are dragged have been kept under the same names. -/
theorem steady_dragAndDrop : Steady E setup (dragAndDrop setup event) := by
  refine (steady_any event (composed_require rfl "src")).bind fun source =>
    (steady_any event (composed_require rfl "dst")).bind fun target =>
      twins_session_bind fun s s' hs => ?_
  have hfailing : Steady E setup (error ("Drag and drop needs stored elements '" ++ source ++
      "' and '" ++ target ++ "'.") >>= fun _ => (fail .abort : Act Unit)) :=
    (steady_say _).bind fun _ => steady_fail _
  have hsource := rel_get?_stored hs.stored source
  have htarget := rel_get?_stored hs.stored target
  dsimp only
  generalize s.stored.get? source = a, s.stored.get? target = b at hsource htarget ⊢
  generalize s'.stored.get? source = a', s'.stored.get? target = b' at hsource htarget ⊢
  cases hsource with
  | none => exact hfailing
  | some hdragged =>
    cases htarget with
    | none => exact hfailing
    | some honto => exact (steady_say _).then fun _ => twins_call (.dragAndDrop hdragged honto)

end Elements

/-! ### Plugins -/

/-- A plugin that is called is shown the element, or the other one in its place. -/
theorem twins_callPlugin (hsetup : setup.Steady E) {event : Event} {parent parent' : Option Element}
    (hparent : Option.Rel E parent parent') :
    Twins E setup (callPlugin setup event parent) (callPlugin setup event parent') Eq := by
  have hrun (r : Registration) (hmem : r ∈ Configured.catalog setup.plugins) (args : List String) :
      Twins E setup (Act.move (.plugin r.plugin parent args))
        (Act.move (.plugin r.plugin parent' args)) Eq :=
    twins_move (Stretch.twins_get_bind fun s s' hs => Stretch.twins_ofWorker
      (hsetup r hmem _ _ _ _ (hs.pluginContext setup hparent args)))
  rw [callPlugin, namedPlugin, bind_assoc, callPlugin, namedPlugin, bind_assoc]
  refine (steady_any event (composed_require rfl "classname")).then fun name => ?_
  split
  · rename_i r hfound
    rw [Registration.named?, List.findRev?_eq_find?_reverse] at hfound
    have hmem := List.mem_reverse.1 (List.mem_of_find?_eq_some hfound)
    refine (steady_any event composed_arguments).then fun args => (steady_say _).then fun _ =>
      (hrun r hmem args).then fun result => (steady_orAbort result).then fun result => ?_
    cases result with
    | ok _ => exact twins_pure rfl
    | error e => exact twins_fail _
  · -- without a plugin of the name the event is over, and nothing comes after
    rw [bind_assoc, bind_assoc]
    exact (steady_say _).then fun _ => (twins_fail .abort : Twins _ _ (fail .abort : Act Unit) _ _)

end Act

/-! ## Whole events -/

/-- Two events have left the same but for the elements they have found. -/
structure Opened.Akin (E : Element → Element → Prop) (o o' : Opened) : Prop where
  element : Option.Rel E o.element o'.element
  inner_eq : o'.inner = o.inner
  restore_eq : o'.restore = o.restore

namespace Passage

variable {setup : Setup} {R : α → β → Prop} {event : Event} {parent parent' : Option Element}

theorem twins_act {a : Act α} {a' : Act β} (h : a.Twins E setup a' R) :
    Stretch.Twins E (act setup a).run (act setup a').run (Agrees R) :=
  h

theorem twins_pure {a : α} {b : β} (h : R a b) :
    Stretch.Twins E (pure a : Passage α).run (pure b : Passage β).run (Agrees R) :=
  Stretch.twins_pure (.ok h)

theorem twins_inner {r : Request} (h : r.isInner = true) :
    Stretch.Twins E (ofWorker (Program.request r)).run (ofWorker (Program.request r)).run
      (Agrees Eq) :=
  (Stretch.twins_ofWorker (Worker.paired_inner h)).run_lift

/-- **What has nothing to do with elements is the same in both runs.** -/
theorem twins_same {kind : Kind} (hsetup : kind = .command .pluginloader → setup.Steady E)
    (hkind : kind.isElementless = true) {p : Passage α} (hp : p.Composed setup event kind) :
    Stretch.Twins E p.run p.run (Agrees Eq) := by
  induction hp with
  | pure a => exact twins_pure rfl
  | act ha => exact twins_act (Act.steady_act hsetup hkind ha)
  | extend d _ => exact twins_inner (r := .extend d) rfl
  | bind _ _ ihp ihf => exact ihp.run_bind_eq ihf

theorem twins_plainly {a a' : Act Unit} (h : a.Twins E setup a' Eq) :
    Stretch.Twins E (plainly setup a).run (plainly setup a').run (Agrees (Opened.Akin E)) :=
  (twins_act h).run_bind_eq fun _ => twins_pure ⟨.none, rfl, rfl⟩

/-- **Whatever an event does, it does side by side** in two runs that have been given different
elements; and so does an event that is the same but for its children. -/
theorem twins_carryOut (hsetup : setup.Steady E) (children : List Event)
    (hparent : Option.Rel E parent parent') :
    Stretch.Twins E (carryOut setup event parent).run
      (carryOut setup { event with children } parent').run (Agrees (Opened.Akin E)) := by
  have helement : Stretch.Twins E
      (act setup (Act.element setup event parent) >>= fun found =>
        (return { element := some found } : Passage Opened)).run
      (act setup (Act.element setup { event with children } parent') >>= fun found =>
        (return { element := some found } : Passage Opened)).run (Agrees (Opened.Akin E)) :=
    (twins_act (Act.twins_element children hparent)).run_bind fun _ _ he =>
      twins_pure ⟨.some he, rfl, rfl⟩
  have same {α : Type} {kind : Kind} {a : Act α} (hkind : kind.isElementless = true)
      (ha : a.Composed setup event kind) :
      Stretch.Twins E (act setup a).run (act setup a).run (Agrees Eq) :=
    twins_same (fun _ => hsetup) hkind (.act ha)
  have plain {kind : Kind} {a : Act Unit} (hkind : kind.isElementless = true)
      (ha : a.Composed setup event kind) :
      Stretch.Twins E (plainly setup a).run (plainly setup a).run (Agrees (Opened.Akin E)) :=
    twins_plainly (Act.steady_act (fun _ => hsetup) hkind ha)
  unfold carryOut
  dsimp only
  split
  · exact plain rfl Act.composed_alert
  · exact twins_plainly (Act.steady_pure ())
  · have hfound : (do
        let q ← WindowQuery.ofEvent setup event
        return (q, ← Act.call .currentWindow)).Composed setup event (.command .attach) :=
      .bind (Act.composed_ofEvent rfl) fun q => .bind (Act.composed_call trivial) fun _ => .pure _
    have hattach (q : WindowQuery) (previous : String) :
        (Act.attach setup q previous).Composed setup event (.command .attach) :=
      Act.composed_attach q previous
    exact (same rfl hfound).run_bind_eq fun found =>
      (twins_inner (r := .extend _) rfl).run_bind_eq fun _ =>
        (same rfl (hattach _ _)).run_bind_eq fun _ => twins_pure ⟨.none, rfl, rfl⟩
  · exact plain rfl Act.composed_browser
  · exact (same rfl Act.composed_csv).run_bind_eq fun _ => twins_pure ⟨.none, rfl, rfl⟩
  · exact plain rfl Act.composed_delete
  · exact twins_plainly Act.steady_dragAndDrop
  · exact plain rfl Act.composed_execute
  · exact twins_plainly (Act.twins_callPlugin hsetup hparent)
  · exact plain rfl Act.composed_javascript
  · exact plain rfl Act.composed_loadPlugin
  · exact plain rfl Act.composed_puts
  · exact plain rfl Act.composed_saveHtml
  · exact plain rfl Act.composed_screenshot
  · exact (same rfl Act.composed_script).run_bind_eq fun _ => twins_pure ⟨.none, rfl, rfl⟩
  · have htimestamp : Act.timestamp.Composed setup event (.command .timestamp) :=
      Act.composed_timestamp
    exact plain rfl htimestamp
  · exact plain rfl Act.composed_var
  · have hsleep (d : Duration) : (Act.step (.sleep d)).Composed setup event (.command .wait) :=
      .rest (.inl rfl)
    have hannounce : (Act.announceWait setup event).Composed setup event (.command .wait) :=
      Act.composed_announceWait rfl
    exact (same rfl hannounce).run_bind_eq fun _ =>
      (twins_inner (r := .extend _) rfl).run_bind_eq fun _ => plain rfl (hsleep _)
  · exact plain rfl Act.composed_whitelist
  · exact (twins_act (Act.twins_frame hparent)).run_bind_eq fun _ => twins_pure ⟨.none, rfl, rfl⟩
  · exact helement
  · exact helement

theorem twins_restore (event : Event) (r : Restore) :
    Stretch.Twins E (restore setup r).run (restore setup r).run (Agrees Eq) := by
  have hcomposed : (restore setup r).Composed setup event r.kind := composed_restore event r
  cases r with
  | nothing | window _ => exact twins_same (fun heq => by cases heq) rfl hcomposed
  | defaultContent =>
    -- the way back to the page as a whole leads through no element
    have hback : Act.Twins E setup (Act.call .switchToDefaultContent)
        (Act.call .switchToDefaultContent) Eq := Act.twins_call (.bare rfl)
    have hsay : Act.Steady E setup (Act.log "Switching back to default frame.") :=
      Act.steady_say _
    exact twins_act (hsay.then fun _ => hback)

theorem twins_openEvent (hsetup : setup.Steady E) (children : List Event)
    (hparent : Option.Rel E parent parent') :
    Stretch.Twins E (openEvent setup event parent).run
      (openEvent setup { event with children } parent').run (Agrees (Opened.Akin E)) := by
  have hcarry : Stretch.Twins E (carryOut setup event parent).run
      (carryOut setup { event with children } parent').run (Agrees (Opened.Akin E)) :=
    twins_carryOut hsetup children hparent
  refine (hcarry.run_lift (ε := Mishap)).run_bind fun result result' h => ?_
  have hpaired : Worker.Paired E Eq (Worker.tell (.carriedOut event result))
      (Worker.tell (.carriedOut { event with children } result')) := Worker.paired_tell rfl
  have htell : Stretch.Twins E (Passage.tell (.carriedOut event result)).run
      (Passage.tell (.carriedOut { event with children } result')).run (Agrees Eq) :=
    (Stretch.twins_ofWorker hpaired).run_lift
  exact htell.run_bind_eq fun _ => Stretch.twins_pure h

end Passage
end PageScript
