import Mathlib.Data.List.Forall2
import PageScript.Run.Test

/-!
# Runs that differ in their elements

An element is a handle that the browser gives out as it likes. A run never looks into one: it hands
elements back to the browser and to plugins, keeps them under names of its own, and puts them into
its log. So two runs that are given different elements at the same places go on side by side.

Everything here is relative to a relation between the elements of the two runs. Programs are paired
if they ask for like things and, whatever like answers they are given, go on paired. That answers
are alike means for a search that it finds elements that are related, and else that they are the
same. Nothing is said of what comes after two programs of the operating system that differ, since
what they answer is beyond a run.
-/

namespace PageScript

variable {α β γ δ ε : Type} {E : Element → Element → Prop}

/-- Two results that are as said, or the same error twice. -/
inductive Agrees (R : α → β → Prop) : Except ε α → Except ε β → Prop where
  | ok {a : α} {b : β} : R a b → Agrees R (.ok a) (.ok b)
  | error (e : ε) : Agrees R (.error e) (.error e)

namespace Agrees

variable {R S : α → β → Prop} {r : Except ε α} {r' : Except ε β}

theorem mono (h : Agrees R r r') (imp : ∀ a b, R a b → S a b) : Agrees S r r' := by
  cases h with
  | ok hab => exact .ok (imp _ _ hab)
  | error e => exact .error e

theorem refl {R : α → α → Prop} (h : ∀ a, R a a) (r : Except ε α) : Agrees R r r := by
  cases r with
  | ok a => exact .ok (h a)
  | error e => exact .error e

theorem eq {r r' : Except ε α} (h : Agrees Eq r r') : r = r' := by
  cases h with
  | ok heq => rw [heq]
  | error e => rfl

end Agrees

/-! ## What is asked for -/

/-- Two frames that are meant alike. -/
inductive FrameTarget.Akin (E : Element → Element → Prop) : FrameTarget → FrameTarget → Prop where
  | refl (t : FrameTarget) : Akin E t t
  | element {e e' : Element} : E e e' → Akin E (.element e) (.element e')

/-- A call that is of no element. -/
def Call.isBare : Call → Bool
  | .switchToDefaultContent | .windowHandles | .currentWindow | .switchToWindow _ | .title
  | .currentUrl | .navigate _ | .back | .forward | .refresh | .close | .pageSource
  | .executeScript _ | .screenshot | .alertText | .acceptAlert | .dismissAlert => true
  | _ => false

/-- Two calls that are the same but for the elements they are of, and how their answers are alike.
-/
inductive Call.Akin (E : Element → Element → Prop) :
    (c c' : Call) → (c.Answer → c'.Answer → Prop) → Prop where
  | bare {c : Call} : c.isBare = true → Akin E c c Eq
  | find (selectors : List (String × String)) {parent parent' : Option Element}
      (patience : Duration) : Option.Rel E parent parent' →
      Akin E (.find selectors parent patience) (.find selectors parent' patience) E
  | click {e e' : Element} : E e e' → Akin E (.click e) (.click e') Eq
  | text {e e' : Element} : E e e' → Akin E (.text e) (.text e') Eq
  | value {e e' : Element} : E e e' → Akin E (.value e) (.value e') Eq
  | setValue {e e' : Element} (value : String) : E e e' →
      Akin E (.setValue e value) (.setValue e' value) Eq
  | appendValue {e e' : Element} (value : String) : E e e' →
      Akin E (.appendValue e value) (.appendValue e' value) Eq
  | clear {e e' : Element} : E e e' → Akin E (.clear e) (.clear e') Eq
  | isSelected {e e' : Element} : E e e' → Akin E (.isSelected e) (.isSelected e') Eq
  | isEnabled {e e' : Element} : E e e' → Akin E (.isEnabled e) (.isEnabled e') Eq
  | selectOption {e e' : Element} (target : OptionTarget) : E e e' →
      Akin E (.selectOption e target) (.selectOption e' target) Eq
  | fireEvent {e e' : Element} (event : String) : E e e' →
      Akin E (.fireEvent e event) (.fireEvent e' event) Eq
  | switchToFrame {t t' : FrameTarget} : t.Akin E t' →
      Akin E (.switchToFrame t) (.switchToFrame t') Eq
  | dragAndDrop {e e' f f' : Element} : E e e' → E f f' →
      Akin E (.dragAndDrop e f) (.dragAndDrop e' f') Eq

/-- Two remarks that are the same but for the elements they name. -/
inductive Remark.Akin (E : Element → Element → Prop) : Remark → Remark → Prop where
  | refl (r : Remark) : Akin E r r
  | stored (name : String) {e e' : Element} : E e e' →
      Akin E (.note .debug .elements "Storing element" [("name", name), ("element", e.id)])
        (.note .debug .elements "Storing element" [("name", name), ("element", e'.id)])
  | switched {t t' : FrameTarget} : t.Akin E t' →
      Akin E (.log ("Switching to frame " ++ t.shown ++ "."))
        (.log ("Switching to frame " ++ t'.shown ++ "."))

/-- A request that calls no browser. -/
def Request.isInner : Request → Bool
  | .step _ (.act (.call _)) => false
  | _ => true

/-- Two requests that are the same but for the elements they are of, and how their answers are
alike. -/
inductive Request.Akin (E : Element → Element → Prop) :
    (r r' : Request) → (r.Answer → r'.Answer → Prop) → Prop where
  | inner {r : Request} : r.isInner = true → Akin E r r Eq
  | say {r r' : Remark} : r.Akin E r' → Akin E (.say r) (.say r') Eq
  /-- Stages that show as the same report. -/
  | tell {s s' : Stage} : (Notice.stage s').report? = (Notice.stage s).report? →
      Akin E (.tell s) (.tell s') Eq
  | call (g : Guard) {c c' : Call} {A : c.Answer → c'.Answer → Prop} : c.Akin E c' A →
      Akin E (.step g (.act (.call c))) (.step g (.act (.call c'))) (Agrees (Agrees A))
  /-- Programs that may differ, since they are told of different elements. -/
  | process (g : Guard) (p p' : Process) {e e' : Element} : E e e' → e ≠ e' →
      Akin E (.step g (.act (.runProcess p))) (.step g (.act (.runProcess p'))) fun _ _ => False

/-! ## Workers -/

/-- Two workers ask for like things and go on so as long as the answers are alike, and they come to
results that are as said. -/
inductive Worker.Paired (E : Element → Element → Prop) (R : α → β → Prop) :
    Worker α → Worker β → Prop where
  | done {a : α} {b : β} : R a b → Paired E R (.done a) (.done b)
  | ask {r r' : Request} {A : r.Answer → r'.Answer → Prop} {next : r.Answer → Worker α}
      {next' : r'.Answer → Worker β} : r.Akin E r' A →
      (∀ x x', A x x' → Paired E R (next x) (next' x')) → Paired E R (.ask r next) (.ask r' next')

namespace Worker

variable {R : α → β → Prop} {S : γ → δ → Prop} {p : Worker α} {p' : Worker β}

theorem Paired.bind {f : α → Worker γ} {f' : β → Worker δ} (h : Paired E R p p')
    (hf : ∀ a b, R a b → Paired E S (f a) (f' b)) : Paired E S (p >>= f) (p' >>= f') := by
  induction h with
  | done hab => exact hf _ _ hab
  | ask hr _ ih => exact .ask hr ih

theorem Paired.mono {T : α → β → Prop} (h : Paired E R p p') (imp : ∀ a b, R a b → T a b) :
    Paired E T p p' := by
  induction h with
  | done hab => exact .done (imp _ _ hab)
  | ask hr _ ih => exact .ask hr ih

theorem paired_request {r r' : Request} {A : r.Answer → r'.Answer → Prop} (h : r.Akin E r' A) :
    Paired E A (Program.request r) (Program.request r') :=
  .ask h fun _ _ => .done

theorem paired_inner {r : Request} (h : r.isInner = true) :
    Paired E Eq (Program.request r) (Program.request r) :=
  paired_request (.inner h)

theorem paired_say {r r' : Remark} (h : r.Akin E r') : Paired E Eq (say r) (say r') := by
  have hsay : (Request.say r).Akin E (.say r') Eq := .say h
  exact paired_request hsay

theorem paired_tell {s s' : Stage}
    (h : (Notice.stage s').report? = (Notice.stage s).report?) : Paired E Eq (tell s) (tell s') := by
  have htell : (Request.tell s).Akin E (.tell s') Eq := .tell h
  exact paired_request htell

theorem paired_giveUp : Paired E R giveUp giveUp :=
  .ask (.inner (r := .tooDeep) rfl) nofun

/-- A worker that is paired with itself, with the same result. -/
theorem Paired.bind_self {p : Worker α} {f : α → Worker γ} {f' : α → Worker δ}
    (h : Paired E Eq p p) (hf : ∀ a, Paired E S (f a) (f' a)) :
    Paired E S (p >>= f) (p >>= f') :=
  h.bind fun a _ heq => heq ▸ hf a

theorem paired_unlessStopped (g : Guard) {w : Worker (Except Cut α)} {w' : Worker (Except Cut β)}
    (h : Paired E (Agrees R) w w') :
    Paired E (Agrees R) (unlessStopped g w) (unlessStopped g w') := by
  refine (paired_inner (r := .isStopped) rfl).bind_self fun stopped => ?_
  split
  · exact .done (.error _)
  · exact h

theorem paired_call (g : Guard) {c c' : Call} {A : c.Answer → c'.Answer → Prop}
    (h : c.Akin E c' A) : Paired E (Agrees (Agrees A)) (call g c) (call g c') :=
  paired_unlessStopped g (paired_request (.call g h))

theorem paired_guarded (g : Guard) {s : Step} (h : (Request.step g s).isInner = true) :
    Paired E Eq (guarded g s) (guarded g s) := by
  refine (paired_unlessStopped g (R := Eq) ?_).mono fun _ _ => Agrees.eq
  exact (paired_inner h).mono fun _ _ heq => heq ▸ .refl (fun _ => rfl) _

end Worker

/-! ## Sessions -/

/-- Two plugins' views of a run differ in the element at hand. -/
structure PluginContext.Akin (E : Element → Element → Prop) (c c' : PluginContext) : Prop where
  element : Option.Rel E c.element c'.element
  rest : c' = { c with element := c'.element }

/-- A plugin that does not look into the element it is shown. -/
def Plugin.Steady (E : Element → Element → Prop) (p : Plugin) : Prop :=
  ∀ (g : Guard) (phase : Option Phase) (c c' : PluginContext), c.Akin E c' →
    Worker.Paired E Eq (p.run g phase c) (p.run g phase c')

/-- Two runs remember the same but for elements, which they keep under the same names; and their
active plugins do not look into elements. -/
structure Session.Akin (E : Element → Element → Prop) (s s' : Session) : Prop where
  stored : List.Forall₂ (fun p p' => p'.1 = p.1 ∧ E p.2 p'.2) s.stored s'.stored
  rest : s' = { s with stored := s'.stored }
  plugins : ∀ r ∈ s.registry, r.plugin.Steady E

/-- Plugins do not look into the elements they are shown. -/
def Setup.Steady (E : Element → Element → Prop) (setup : Setup) : Prop :=
  ∀ r ∈ Configured.catalog setup.plugins, r.plugin.Steady E

theorem Setup.Steady.active {setup : Setup} (h : setup.Steady E) {r : Registration}
    (hmem : r ∈ Configured.active setup.plugins) : r.plugin.Steady E := by
  obtain ⟨configured, hin, rfl⟩ := List.mem_map.1 hmem
  exact h _ (List.mem_map_of_mem (List.mem_of_mem_filter hin))

section Stored

variable {stored stored' : Bindings Element}

theorem rel_get?_stored
    (h : List.Forall₂ (fun p p' => p'.1 = p.1 ∧ E p.2 p'.2) stored stored') (name : String) :
    Option.Rel E (Bindings.get? stored name) (Bindings.get? stored' name) := by
  unfold Bindings.get?
  induction h with
  | nil => exact .none
  | @cons p p' _ _ hp _ ih =>
    rw [List.lookup_cons, List.lookup_cons, hp.1]
    split
    · exact .some hp.2
    · exact ih

theorem forall₂_put_stored
    (h : List.Forall₂ (fun p p' => p'.1 = p.1 ∧ E p.2 p'.2) stored stored') (name : String)
    {e e' : Element} (he : E e e') :
    List.Forall₂ (fun p p' => p'.1 = p.1 ∧ E p.2 p'.2) (Bindings.put name e stored)
      (Bindings.put name e' stored') := by
  induction h with
  | nil => exact .cons ⟨rfl, he⟩ .nil
  | @cons p p' _ _ hp htail ih =>
    obtain ⟨n, v⟩ := p
    obtain ⟨n', v'⟩ := p'
    obtain rfl : n' = n := hp.1
    rw [Bindings.put, Bindings.put]
    split
    · exact .cons ⟨rfl, he⟩ htail
    · exact .cons hp ih

end Stored

namespace Session.Akin

variable {s s' : Session}

/-- An edit that puts no element away. -/
theorem edit (h : s.Akin E s') {e : Edit} (hstore : ∀ name x, e ≠ .store name x)
    (hactivate : ∀ r, e = .activate r → r.plugin.Steady E) : (s.edit e).Akin E (s'.edit e) := by
  obtain ⟨hstored, hrest, hplugins⟩ := h
  rw [hrest]
  cases e with
  | store name x => exact absurd rfl (hstore name x)
  | activate r =>
    refine ⟨hstored, rfl, fun r' hmem => ?_⟩
    obtain hmem | hmem := List.mem_append.1 hmem
    · exact hplugins r' hmem
    · exact List.mem_singleton.1 hmem ▸ hactivate r rfl
  | _ => exact ⟨hstored, rfl, hplugins⟩

theorem store (h : s.Akin E s') (name : String) {e e' : Element} (he : E e e') :
    (s.edit (.store name e)).Akin E (s'.edit (.store name e')) := by
  refine ⟨forall₂_put_stored h.stored name he, ?_, h.plugins⟩
  conv_lhs => rw [h.rest]
  rfl

theorem vars_eq (h : s.Akin E s') : s'.vars = s.vars := by rw [h.rest]

theorem registry_eq (h : s.Akin E s') : s'.registry = s.registry := by rw [h.rest]

theorem window_eq (h : s.Akin E s') : s'.window = s.window := by rw [h.rest]

theorem pluginContext (h : s.Akin E s') (setup : Setup) {element element' : Option Element}
    (helement : Option.Rel E element element') (args : List String) :
    (s.pluginContext setup element args).Akin E (s'.pluginContext setup element' args) :=
  ⟨helement, by rw [Session.pluginContext, Session.pluginContext, h.vars_eq]⟩

end Session.Akin

/-! ## Dispatch -/

section Dispatch

variable {setup : Setup} {s s' : Session} {o o' : Occasion}

/-- Two occasions of the same phase, for events of the same tag and elements that are alike. -/
structure Occasion.Akin (E : Element → Element → Prop) (o o' : Occasion) : Prop where
  phase_eq : o'.phase = o.phase
  tag_eq : o'.tag = o.tag
  element : Option.Rel E o.element o'.element

theorem paired_runPlugins (hs : s.Akin E s') (ho : o.Akin E o') (g : Guard) {plugins : List Plugin}
    (hplugins : ∀ p ∈ plugins, p.Steady E) :
    Worker.Paired E Eq (s.runPlugins setup g o plugins) (s'.runPlugins setup g o' plugins) := by
  induction plugins with
  | nil => exact .done rfl
  | cons p plugins ih =>
    obtain ⟨hp, hrest⟩ := List.forall_mem_cons.1 hplugins
    rw [Session.runPlugins, Session.runPlugins, ho.phase_eq]
    refine (Worker.paired_say (.refl _)).bind_self fun _ =>
      (hp g _ _ _ (hs.pluginContext setup ho.element [])).bind ?_
    rintro result _ rfl
    rcases result with cut | result
    · cases cut <;> exact .done rfl
    · refine Worker.Paired.bind_self ?_ fun _ => ih hrest
      cases result with
      | ok _ => exact .done rfl
      | error e => exact Worker.paired_say (.refl _)

theorem paired_dispatch (hs : s.Akin E s') (ho : o.Akin E o') (g : Guard) :
    Worker.Paired E Eq (s.dispatch setup g o) (s'.dispatch setup g o') := by
  have hskip : Worker.Paired E Eq Session.skipPlugins Session.skipPlugins :=
    (Worker.paired_say (.refl _)).bind_self fun _ => .done rfl
  rw [Session.dispatch, Session.dispatch, hs.registry_eq]
  split
  · exact .done rfl
  refine (Worker.paired_call g (.bare rfl)).bind fun r r' h => ?_
  obtain rfl := (h.mono fun _ _ => Agrees.eq).eq
  rcases r with cut | handles
  · cases cut
    · exact hskip
    · exact .done rfl
  rcases handles with e | handles
  · exact hskip
  have hwindow : s'.hasWindow handles = s.hasWindow handles := by
    rw [Session.hasWindow, Session.hasWindow, hs.window_eq]
  dsimp only
  rw [hwindow]
  split
  · rw [ho.phase_eq, ho.tag_eq]
    refine paired_runPlugins hs ho g fun p hmem => ?_
    obtain ⟨r, hr, rfl⟩ := List.mem_map.1 hmem
    exact hs.plugins r (List.mem_of_mem_filter hr)
  · exact hskip

theorem paired_fire (hs : s.Akin E s') (ho : o.Akin E o') :
    Worker.Paired E Eq (s.fire setup o) (s'.fire setup o') := by
  refine (Worker.paired_inner (r := .isStopped) rfl).bind_self fun stopped => ?_
  split
  · exact .done rfl
  · have htell : Worker.Paired E Eq (Worker.tell (.occasion o)) (Worker.tell (.occasion o')) :=
      Worker.paired_tell rfl
    exact htell.bind fun _ _ _ => (paired_dispatch hs ho _).bind fun _ _ _ => .done rfl

theorem paired_fireAfterTest (hs : s.Akin E s') :
    Worker.Paired E Eq (s.fireAfterTest setup) (s'.fireAfterTest setup) := by
  refine (Worker.paired_inner (r := .isStopped) rfl).bind_self fun stopped =>
    (Worker.paired_tell rfl).bind_self fun _ =>
      (Worker.paired_inner (r := .limit _) rfl).bind_self fun limit =>
        (paired_dispatch hs ⟨rfl, rfl, .none⟩ _).bind ?_
  rintro ended _ rfl
  cases ended with
  | finished => exact .done rfl
  | timeUp =>
    refine Worker.Paired.bind_self ?_ fun _ => Worker.paired_say (.refl _)
    unfold Worker.stopUnless
    split
    · exact .done rfl
    · exact Worker.paired_inner (r := .stop _) rfl

end Dispatch
end PageScript
