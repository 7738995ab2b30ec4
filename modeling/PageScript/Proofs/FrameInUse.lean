import PageScript.Proofs.ContextKept

/-!
# The frame in use

A frame event switches to a frame below the one that is in use, but what goes back after its children
does not lead to the frame from before: it leads out of all of them. So the children of a frame event
run in its frame only as long as none of them has switched to a frame itself; those that come later
run in the default content. Outside of all frame events calls go to the default content, if they do so
when the run begins.

Which frame is in use at any point of a run follows from the stays before it alone.
-/

namespace PageScript

variable {σ : Type} {o : Outside σ} {setup : Setup} {context : σ → List FrameTarget}
  {s s' : Session} {w w' : World σ} {m m' : Moment σ} {event : Event}

/-- A browser in which the frames that have been switched to lie one within another, and that leaves
all of them at once. -/
structure Framed (o : Outside σ) (context : σ → List FrameTarget) : Prop where
  entered : ∀ {target x y}, (o (.call (.switchToFrame target)) x).ending = some (.ok (), y) →
    context y = target :: context x
  notEntered : ∀ {target x e y},
    (o (.call (.switchToFrame target)) x).ending = some (.error e, y) → context y = context x
  left : ∀ {x r y}, (o (.call .switchToDefaultContent) x).ending = some (r, y) →
    r = .ok () ∧ context y = []
  kept : ∀ {a x r y}, a.shift? ≠ some .frame → (o a x).ending = some (r, y) →
    context y = context x

theorem Framed.keeps (h : Framed o context) :
    o.Keeps .frame fun x y => context y = context x where
  refl _ := rfl
  trans h h' := h'.trans h
  answer := h.kept

namespace Stay

/-- A stay in a frame event that has switched. -/
def enters (stay : Stay σ) : Bool :=
  stay.event.kind == .frame && stay.visit.result.toBool

/-- Where calls go after stays, if before them they go to the given frames: to the default content if
any of them has switched to a frame. -/
def contextAfter (stays : List (Stay σ)) (frames : List FrameTarget) : List FrameTarget :=
  if (allOf stays).any enters then [] else frames

variable {stay : Stay σ} {here later : List (Stay σ)} {frames : List FrameTarget}

@[simp] theorem contextAfter_nil : contextAfter ([] : List (Stay σ)) frames = frames := by
  simp [contextAfter]

theorem contextAfter_append :
    contextAfter (here ++ later) frames = contextAfter later (contextAfter here frames) := by
  unfold contextAfter
  rw [allOf_append, List.any_append]
  cases (allOf here).any enters <;> cases (allOf later).any enters <;> rfl

theorem contextAfter_default (stays : List (Stay σ)) : contextAfter stays [] = [] := by
  simp [contextAfter]

end Stay

/-! ## Events -/

section Events

open Stretch

variable {parent : Option Element}

section Stays

variable (stay : Stay σ) (hframed : Framed o context)
  (hopen : Comes o (Passage.openEvent setup stay.event stay.visit.parent).run
    (stay.before.starting stay.event stay.visit.parent) stay.visit.result stay.carried)

include hframed hopen

end Stays

end Events

/-! ## Tours -/

/-- Where calls go at the points of a stay: where they went before, or in the frame that the event has
switched to, until a stay within it has left all frames. -/
structure Stay.Placed (context : σ → List FrameTarget) (stay : Stay σ) : Prop where
  entered : stay.enters = true → ∃ target, context stay.carried.world.outside =
    target :: context stay.before.world.outside
  notEntered : stay.enters = false →
    context stay.carried.world.outside = context stay.before.world.outside
  within : ∀ earlier child later, stay.within = earlier ++ child :: later →
    context child.before.world.outside =
      Stay.contextAfter earlier (context stay.carried.world.outside)
  departed : ∀ d, stay.departure = some d → context d.after.world.outside =
    Stay.contextAfter [stay] (context stay.before.world.outside)

namespace Tour

/-- Where calls go on a tour. -/
structure Places (context : σ → List FrameTarget) (m : Moment σ) (stays : List (Stay σ))
    (r : Except Error Unit) (m' : Moment σ) : Prop where
  after : r = .ok () →
    context m'.world.outside = Stay.contextAfter stays (context m.world.outside)
  starts : ∀ earlier stay later, stays = earlier ++ stay :: later →
    context stay.before.world.outside = Stay.contextAfter earlier (context m.world.outside)
  placed : ∀ stay ∈ Stay.allOf stays, stay.Placed context
  /-- Where no frame event is around, calls go to the default content if they did so before. -/
  outermost : context m.world.outside = [] → ∀ stay ∈ Stay.allOf stays,
    (∀ outer ∈ Stay.allOf stays, outer.enters = true → stay ∉ Stay.allOf outer.within) →
      context stay.before.world.outside = []

theorem Places.append {m₁ : Moment σ} {here later : List (Stay σ)} {r : Except Error Unit}
    (hhere : Places context m here (.ok ()) m₁) (hlater : Places context m₁ later r m') :
    Places context m (here ++ later) r m' := by
  have hmiddle := hhere.after rfl
  refine ⟨fun hr => ?_, fun earlier stay rest heq => ?_, ?_, fun hdefault => ?_⟩
  · rw [hlater.after hr, hmiddle, Stay.contextAfter_append]
  · rcases List.append_eq_append_iff.1 heq with ⟨more, rfl, hrest⟩ | ⟨more, heq, hrest⟩
    · rw [hlater.starts more stay rest hrest, hmiddle, Stay.contextAfter_append]
    · cases more with
      | nil =>
        rw [List.append_nil] at heq
        subst heq
        rw [hlater.starts [] stay rest hrest.symm, hmiddle, Stay.contextAfter_nil]
      | cons head more =>
        obtain ⟨rfl, -⟩ := List.cons.inj hrest
        exact hhere.starts earlier stay more heq
  · exact Stay.forall_allOf_append.2 ⟨hhere.placed, hlater.placed⟩
  · refine Stay.forall_allOf_append.2 ⟨fun stay hmem houter => ?_, fun stay hmem houter => ?_⟩ <;>
      rw [Stay.forall_allOf_append] at houter
    · exact hhere.outermost hdefault stay hmem houter.1
    · -- whatever has been there so far, no frame is left in use
      rw [hdefault, Stay.contextAfter_default] at hmiddle
      exact hlater.outermost hmiddle stay hmem houter.2

/-- A stay is placed around those within it. -/
theorem Places.around {stay : Stay σ} {r r' : Except Error Unit} {done : Moment σ}
    (h : Places context stay.carried stay.within r done) (hself : stay.Placed context)
    (hafter : r' = .ok () → context m'.world.outside =
      Stay.contextAfter [stay] (context stay.before.world.outside)) :
    Places context stay.before [stay] r' m' := by
  refine ⟨hafter, fun earlier inner rest heq => ?_, ?_, fun hdefault => ?_⟩
  · cases earlier with
    | nil =>
      cases heq
      rw [Stay.contextAfter_nil]
    | cons _ earlier => simp at heq
  · exact Stay.forall_allOf_singleton.2 ⟨hself, h.placed⟩
  · refine Stay.forall_allOf_singleton.2 ⟨fun _ => hdefault, fun inner hmem houter => ?_⟩
    obtain ⟨hself₁, hwithin⟩ := Stay.forall_allOf_singleton.1 houter
    -- what is inside of a frame event is not outside of all of them
    have henters : stay.enters = false :=
      Bool.eq_false_iff.2 fun henters => hself₁ henters hmem
    exact h.outermost ((hself.notEntered henters).trans hdefault) inner hmem hwithin

theorem Places.nil (m m' : Moment σ) (h : m'.world.outside = m.world.outside) :
    Places context m [] (.ok ()) m' := by
  refine ⟨fun _ => ?_, fun _ _ _ heq => ?_, Stay.forall_allOf_nil, fun _ => Stay.forall_allOf_nil⟩
  · rw [h, Stay.contextAfter_nil]
  · simp at heq

end Tour

section Runs

variable {calendar : Calendar} {stopAt : Option Duration} {events : List Event} {outside : σ}
  {ended : Ended σ}

end Runs
end PageScript
