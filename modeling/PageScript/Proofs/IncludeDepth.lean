import PageScript.Run.Supervised

/-!
# How deeply scripts include each other

A traversal follows scripts that include each other to a given depth, and is given up there. The
depth only decides whether a traversal comes to an end, never to which one: where one worker comes
to an end, another one covers it if it comes to the same, and a traversal to a greater depth covers
the one to a smaller. Parts that cover each other are put together to wholes that do, so all there
is to see is that the events of a script are the only part in which the two differ.
-/

namespace PageScript

variable {σ α β ε : Type} {o : Outside σ} {setup : Setup}

/-- Wherever one worker comes to an end, the other comes to the same. -/
def Worker.CoveredBy (o : Outside σ) (p q : Worker α) : Prop :=
  ∀ w r, World.run o p w = some r → World.run o q w = some r

theorem Worker.CoveredBy.bind {p q : Worker β} {f g : β → Worker α} (h : p.CoveredBy o q)
    (hnext : ∀ b, (f b).CoveredBy o (g b)) : (p >>= f).CoveredBy o (q >>= g) := by
  intro w r hrun
  rw [World.run_bind] at hrun ⊢
  obtain ⟨⟨b, w'⟩, hfirst, hsecond⟩ := Option.bind_eq_some_iff.1 hrun
  rw [h w (b, w') hfirst]
  exact hnext b w' r hsecond

namespace Stretch

/-- Wherever one stretch comes to an end, the other comes to the same. -/
def CoveredBy (o : Outside σ) (m n : Stretch α) : Prop :=
  ∀ s, (m s).CoveredBy o (n s)

theorem CoveredBy.refl (m : Stretch α) : CoveredBy o m m := fun _ _ _ hrun => hrun

theorem CoveredBy.bind {m n : Stretch β} {f g : β → Stretch α} (h : CoveredBy o m n)
    (hnext : ∀ b, CoveredBy o (f b) (g b)) : CoveredBy o (m >>= f) (n >>= g) :=
  fun s => Worker.CoveredBy.bind (h s) fun p => hnext p.1 p.2

/-- Stretches that may end early cover each other if what comes next in them does. -/
theorem CoveredBy.run_bind {m n : ExceptT ε Stretch β} {f g : β → ExceptT ε Stretch α}
    (h : CoveredBy o m.run n.run) (hnext : ∀ b, CoveredBy o (f b).run (g b).run) :
    CoveredBy o (m >>= f).run (n >>= g).run := by
  rw [ExceptT.run_bind, ExceptT.run_bind]
  refine h.bind fun r => ?_
  cases r with
  | ok b => exact hnext b
  | error e => exact .refl _

theorem CoveredBy.lift {m n : Stretch α} (h : CoveredBy o m n) :
    CoveredBy o (ExceptT.lift m : ExceptT ε Stretch α).run (ExceptT.lift n).run := by
  rw [ExceptT.run_lift, ExceptT.run_lift, map_eq_pure_bind, map_eq_pure_bind]
  exact h.bind fun _ => .refl _

end Stretch

/-- The traversals of all lists of events, of which the one covers the other. -/
def Journey.Follows (o : Outside σ) (f g : List Event → Option Element → Journey Unit) : Prop :=
  ∀ events parent, Stretch.CoveredBy o (f events parent).run (g events parent).run

namespace Detour

open Stretch

variable {f g : List Event → Option Element → Journey Unit} {children children' : Journey Unit}

theorem coveredBy_forRows (h : CoveredBy o children.run children'.run) (rows : List Row) :
    CoveredBy o (forRows children rows).run (forRows children' rows).run := by
  induction rows with
  | nil => exact .refl _
  | cons cells rows ih =>
    rw [forRows, forRows]
    refine .run_bind (.refl _) fun stopped => ?_
    split
    · exact .refl _
    · refine .run_bind (.refl _) fun _ => .run_bind h.lift fun result => ?_
      exact .run_bind (.refl _) fun _ => .run_bind (.refl _) fun _ => ih

theorem coveredBy_opening (hfollow : Journey.Follows o f g)
    (hchildren : CoveredBy o children.run children'.run) (event : Event)
    (parent : Option Element) : CoveredBy o (opening setup f children event parent).run
      (opening setup g children' event parent).run := by
  rw [opening, opening]
  refine .run_bind (.refl _) fun opened => .run_bind ?_ fun _ => .refl _
  cases opened.inner with
  | nothing => exact .refl _
  | rows rows => exact coveredBy_forRows hchildren rows
  | events events => exact .run_bind (hfollow events parent).lift fun _ => .refl _

end Detour

namespace Journey

open Stretch

variable {f g : List Event → Option Element → Journey Unit}

theorem coveredBy_descend {below below' : Option Element → Journey Unit}
    (h : ∀ element, CoveredBy o (below element).run (below' element).run) (event : Event)
    (result : Except Failure Opened) : CoveredBy o (descend setup below event result).run
      (descend setup below' event result).run := by
  cases result with
  | error failure => exact .refl _
  | ok opened =>
    rw [descend, descend]
    split
    · exact .run_bind (h opened.element) fun _ => .refl _
    · exact .refl _

theorem coveredBy_runEvent {inside inside' : Journey Unit}
    {below below' : Option Element → Journey Unit} (hfollow : Follows o f g)
    (hinside : CoveredBy o inside.run inside'.run)
    (hbelow : ∀ element, CoveredBy o (below element).run (below' element).run) (event : Event)
    (parent : Option Element) : CoveredBy o (runEvent setup f inside below event parent).run
      (runEvent setup g inside' below' event parent).run := by
  rw [runEvent, runEvent]
  refine .run_bind (.refl _) fun _ => .run_bind (.refl _) fun _ => ?_
  refine .run_bind (Detour.coveredBy_opening hfollow hinside event parent).lift fun result => ?_
  exact .run_bind (coveredBy_descend hbelow event result) fun _ => .refl _

mutual

theorem coveredBy_visitOne (hfollow : Follows o f g) (event : Event) (parent : Option Element) :
    CoveredBy o (visitOne setup f event parent).run (visitOne setup g event parent).run :=
  match event with
  | ⟨_, _, _, _, _, _, children⟩ => by
    rw [visitOne, visitOne]
    exact coveredBy_runEvent hfollow (coveredBy_visitAll hfollow children parent)
      (coveredBy_visitAll hfollow children) _ parent

theorem coveredBy_visitAll (hfollow : Follows o f g) (events : List Event)
    (parent : Option Element) :
    CoveredBy o (visitAll setup f events parent).run (visitAll setup g events parent).run :=
  match events with
  | [] => .refl _
  | event :: events => by
    rw [visitAll, visitAll]
    refine .run_bind (.refl _) fun stopped => ?_
    split
    · exact .refl _
    · exact .run_bind (coveredBy_visitOne hfollow event parent) fun _ =>
        coveredBy_visitAll hfollow events parent

end

/-- One level more changes no traversal that comes to an end. -/
theorem follows_visit_succ (depth : Nat) :
    Follows o (visit setup depth) (visit setup (depth + 1)) := by
  induction depth with
  | zero => exact fun events parent s w r hrun => by cases hrun
  | succ depth ih => exact fun events parent => coveredBy_visitAll ih events parent

end Journey
end PageScript
