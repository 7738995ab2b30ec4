import PageScript.Proofs.CarriedOut

/-!
# Parts of a run that pass

What is shown of a part of a run that is not stopped is that it passes: if the run has not been stopped
by the end of the part, then the part has come to a result that is as said, or it has ended early in a
way that is as said. A stop is never undone, so the parts can be put together.
-/

namespace PageScript

variable {σ α β ε : Type} {o : Outside σ} {setup : Setup} {s s' : Session} {w w' : World σ}

/-- Unless the run has been stopped by its end, a part of a run comes to a result that is as said,
or it ends early in a way that is as said. -/
def Stretch.Passes (o : Outside σ) (m : ExceptT ε Stretch α) (s : Session) (w : World σ)
    (Q : α → Session → World σ → Prop) (E : ε → Session → World σ → Prop) : Prop :=
  Leads o m.run s w fun r s' w' => w'.isStopped = false →
    match r with
    | .ok a => Q a s' w'
    | .error e => E e s' w'

namespace Stretch

variable {Q : α → Session → World σ → Prop} {E : ε → Session → World σ → Prop}

theorem Passes.mono {m : ExceptT ε Stretch α} {R : α → Session → World σ → Prop}
    {F : ε → Session → World σ → Prop} (h : Passes o m s w R F)
    (hQ : ∀ a s' w', R a s' w' → Q a s' w') (hE : ∀ e s' w', F e s' w' → E e s' w') :
    Passes o m s w Q E := by
  refine Leads.mono h fun r s' w' hr hstop => ?_
  cases r with
  | ok a => exact hQ a s' w' (hr hstop)
  | error e => exact hE e s' w' (hr hstop)

/-- What comes after a part starts where the part has passed, since a stop is never undone. -/
theorem Passes.bind {m : ExceptT ε Stretch β} {f : β → ExceptT ε Stretch α}
    {R : β → Session → World σ → Prop} (h : Passes o m s w R E)
    (hnext : ∀ b s' w', R b s' w' → Passes o (f b) s' w' Q E) :
    Passes o (m >>= f) s w Q E := by
  unfold Passes
  rw [leads_run_bind]
  refine Leads.mono h fun r s' w' hr => ?_
  cases r with
  | error e => exact hr
  | ok b =>
    cases hstop : w'.isStopped with
    | false => exact hnext b s' w' (hr hstop)
    | true =>
      -- then it has been stopped by the end of what comes after, too
      have hlater : Leads o (f b).run s' w' fun _ _ w'' => w'.Later w'' :=
        World.leads_later ((f b).run s')
      refine hlater.mono fun r'' _ w'' hl hstop'' => ?_
      rw [hl.stopped hstop] at hstop''
      cases hstop''

theorem passes_pure {a : α} (h : w.isStopped = false → Q a s w) :
    Passes o (pure a : ExceptT ε Stretch α) s w Q E :=
  leads_run_pure a |>.2 h

end Stretch

namespace Journey

open Stretch

/-- What comes before the events is told of as asides. -/
theorem adds_begin : Leads o (noteWindow >>= fun _ => Stretch.fire setup { phase := .beforeTest }) s w
    fun _ _ w' => w.Adds Happening.Aside w' := by
  rw [leads_bind, noteWindow, leads_bind, leads_ofWorker]
  refine ((World.kept_adds o w).step _ (.refl _ w)).mono fun result w₁ hadds => ?_
  have hfire (s : Session) : Leads o (Stretch.fire setup { phase := .beforeTest }) s w₁
      fun _ _ w' => w.Adds Happening.Aside w' :=
    leads_fire _ _ |>.2 ((World.kept_adds o w).fire (by simp) hadds)
  rcases result with _ | _ | handle
  · exact leads_pure () |>.2 (hfire s)
  · exact leads_pure () |>.2 (hfire s)
  · exact leads_modify _ |>.2 (hfire _)

end Journey
end PageScript
