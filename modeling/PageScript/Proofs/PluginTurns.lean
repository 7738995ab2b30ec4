import PageScript.Proofs.AnsweredSteps
import PageScript.Proofs.GivenUpSteps
import PageScript.Proofs.ActInvariants

/-!
# The plugins of an occasion

At an occasion the plugins that accept it are served one after another: each is run once and to its
end, and if it has failed this is reported once before the next one has its turn. Whether a plugin
fails keeps none of the later ones from theirs. Only the stop of the run does: a plugin that is
given up leaves a stopped run behind, or one that counts as stopped since the plugins at the end of
the test have taken too long.
-/

namespace PageScript

variable {σ : Type} {o : Outside σ} {setup : Setup} {w w' : World σ} {g : Guard}

namespace World

/-- A step that heeds the stop is given up because of it, or because the limit has come. -/
theorem stopped_of_cut (hheeds : g.heedsStop = true) {s : Step} {cut : Cut}
    (h : w.step o g s = (.error cut, w')) :
    w'.isStopped = true ∨ cut = .timeUp ∧ g.limit?.isSome = true := by
  cases g with
  | untilLimit l => cases hheeds
  | untilStop l =>
    cases l with
    | none => exact .inl (isStopped_of_cut h)
    | some l =>
      cases cut with
      | timeUp => exact .inr ⟨rfl, rfl⟩
      | cancelled =>
        rcases cuts_step h with hnone | ⟨-, hstop⟩
        · cases hnone
        · exact .inl hstop

theorem stopped_of_plugin (hheeds : g.heedsStop = true) (p : Plugin) (phase : Option Phase)
    (c : PluginContext) : w.Leads o (p.run g phase c) fun r w' => ∀ cut, r = .error cut →
      w'.isStopped = true ∨ cut = .timeUp ∧ g.limit?.isSome = true := by
  have hunder : Under o g (fun _ => True) fun cut w' =>
      w'.isStopped = true ∨ cut = .timeUp ∧ g.limit?.isSome = true := {
    say := fun _ _ => trivial
    stop := fun _ => trivial
    step := fun _ _ _ _ => trivial
    cut := fun _ _ _ h => stopped_of_cut hheeds h }
  refine hunder.plugin p c (fun hcut cut _ => .inl ?_) (fun _ => trivial)
    (fun _ _ _ _ heq => by cases heq) fun _ _ h _ heq => by cases heq; exact h
  rw [Bool.and_eq_true] at hcut
  exact hcut.2

/-- The world once it has been told what a plugin has come to: a failure is reported. -/
def toldResult (p : Plugin) (w : World σ) : Except Error Unit → World σ
  | .ok _ => w
  | .error e => w.say (.exception ("Plugin '" ++ p.name ++ "' failed") e)

end World

/-- What is said before a plugin is run at an occasion. -/
def Plugin.announcement (p : Plugin) (occasion : Occasion) : Remark :=
  .note .debug .traversal "Running plugin" [("plugin", p.name), ("phase", occasion.phase.word)]

namespace Session

variable {s : Session} {occasion : Occasion}

/-- Plugins are run one after another, each of them once and to its end, with these results. -/
inductive Serves (setup : Setup) (o : Outside σ) (s : Session) (g : Guard) (occasion : Occasion) :
    World σ → List (Plugin × Except Error Unit) → World σ → Prop where
  | nil (w : World σ) : Serves setup o s g occasion w [] w
  | cons {p : Plugin} {result : Except Error Unit} {w w₁ w' : World σ}
      {results : List (Plugin × Except Error Unit)} :
      World.run o (p.run g occasion.phase (s.pluginContext setup occasion.element))
        (w.say (p.announcement occasion)) = some (.ok result, w₁) →
      Serves setup o s g occasion (w₁.toldResult p result) results w' →
      Serves setup o s g occasion w ((p, result) :: results) w'

/-- All of the plugins are served, unless the run has been stopped by the end of it or their time
has been up. -/
theorem serves_runPlugins (hheeds : g.heedsStop = true) (plugins : List Plugin) :
    w.Leads o (s.runPlugins setup g occasion plugins) fun r w' => w'.isStopped = false →
      r = .timeUp ∧ g.limit?.isSome = true ∨ r = .finished ∧
        ∃ results, results.map Prod.fst = plugins ∧ Serves setup o s g occasion w results w' := by
  induction plugins generalizing w with
  | nil => exact World.leads_pure _ |>.2 fun _ => .inr ⟨rfl, [], rfl, .nil w⟩
  | cons p ps ih =>
    rw [runPlugins, World.leads_bind, World.leads_say, World.leads_bind]
    intro result w₁ hrun
    have hcut := World.stopped_of_plugin hheeds p _ _ _ _ hrun
    -- what a plugin has come to is told, and then come the others
    have hnext (x : Except Error Unit) (hx : result = .ok x) :
        (w₁.toldResult p x).Leads o (s.runPlugins setup g occasion ps) fun r w' =>
          w'.isStopped = false → r = .timeUp ∧ g.limit?.isSome = true ∨ r = .finished ∧
            ∃ results, results.map Prod.fst = p :: ps ∧
              Serves setup o s g occasion w results w' := by
      subst hx
      refine ih.mono fun r w' h hgoes => ?_
      rcases h hgoes with htime | ⟨hfinished, results, hmap, hserves⟩
      · exact .inl htime
      · exact .inr ⟨hfinished, (p, x) :: results, by rw [List.map_cons, hmap],
          .cons hrun hserves⟩
    rcases result with (_ | _) | e | _
    · refine World.leads_pure _ |>.2 fun hgoes => ?_
      rcases hcut .cancelled rfl with hstop | ⟨heq, -⟩
      · rw [hgoes] at hstop
        cases hstop
      · cases heq
    · refine World.leads_pure _ |>.2 fun hgoes => ?_
      rcases hcut .timeUp rfl with hstop | ⟨-, hlimit⟩
      · rw [hgoes] at hstop
        cases hstop
      · exact .inl ⟨rfl, hlimit⟩
    · rw [World.leads_bind, tellResult, World.leads_say]
      exact hnext (.error e) rfl
    · rw [World.leads_bind, tellResult, World.leads_pure]
      exact hnext (.ok ()) rfl

/-- If the query for open windows finds the window in use, all plugins that accept the occasion are
served. -/
theorem serves_dispatch (hheeds : g.heedsStop = true) {handles : List String} {w₁ : World σ}
    (hquery : World.run o (Worker.call g .windowHandles) w = some (.ok (.ok handles), w₁))
    (hwindow : s.hasWindow handles = true) :
    w.Leads o (s.dispatch setup g occasion) fun r w' => w'.isStopped = false →
      r = .timeUp ∧ g.limit?.isSome = true ∨ r = .finished ∧ ∃ results,
        results.map Prod.fst = Registration.accepting s.registry occasion.phase occasion.tag ∧
        Serves setup o s g occasion (if s.registry.isEmpty then w else w₁) results w' := by
  unfold dispatch
  split
  · rename_i hempty
    refine World.leads_pure _ |>.2 fun _ => .inr ⟨rfl, [], ?_, ?_⟩
    · rw [List.isEmpty_iff.1 hempty]
      rfl
    · exact .nil w
  rw [World.leads_bind]
  intro result w' hres
  rw [hquery] at hres
  cases hres
  dsimp only
  rw [if_pos hwindow]
  exact serves_runPlugins hheeds _

end Session

/-! ## Firings -/

/-- The plugins of an occasion have their turns. -/
structure Firing (σ : Type) where
  occasion : Occasion
  session : Session
  before : World σ
  after : World σ

namespace Firing

variable {f : Firing σ}

/-- What ends the plugins before their time: those at the end of a test have a limit. -/
def guard (setup : Setup) (f : Firing σ) : Guard :=
  if f.occasion.phase = .afterTest then
    Session.lastGuard f.before.isStopped (f.before.limit setup.watchdogTimeout)
  else .untilStop none

def worker (setup : Setup) (f : Firing σ) : Worker Unit :=
  if f.occasion.phase = .afterTest then f.session.fireAfterTest setup
  else f.session.fire setup f.occasion

/-- The occasion comes in a run; but for the one at the end of a test it comes only while the run
has not been stopped. -/
structure Comes (setup : Setup) (o : Outside σ) (f : Firing σ) : Prop where
  run : World.run o (f.worker setup) f.before = some ((), f.after)
  goes : f.occasion.phase ≠ .afterTest → f.before.isStopped = false
  last : f.occasion.phase = .afterTest → f.occasion = { phase := .afterTest }

/-- The world in which it is known that the window in use is open, if it is. -/
def Finds (setup : Setup) (o : Outside σ) (f : Firing σ) (w : World σ) : Prop :=
  ∃ handles, World.run o (Worker.call (f.guard setup) .windowHandles)
      (f.before.tell (.stage (.occasion f.occasion))) = some (.ok (.ok handles), w) ∧
    f.session.hasWindow handles = true

theorem Comes.later (h : f.Comes setup o) : f.before.Later f.after :=
  World.leads_later _ _ _ h.run

theorem heeds_guard (hgoes : f.before.isStopped = false) : (f.guard setup).heedsStop = true := by
  unfold guard Session.lastGuard
  rw [hgoes]
  split <;> rfl

/-- The world that a firing leaves: a run in which the plugins at the end of a test have taken too
long counts as stopped. -/
def ending (setup : Setup) (f : Firing σ) (r : Dispatched) (w : World σ) : World σ :=
  if f.occasion.phase = .afterTest ∧ r = .timeUp then
    (if f.before.isStopped then w else w.stop (.inside .timeLimit)).say
      (.error (Session.timeUpMessage setup))
  else w

/-- What a firing comes to follows from what its dispatch comes to. -/
theorem Comes.dispatched (h : f.Comes setup o) {Q : Dispatched → World σ → Prop}
    (hleads : (f.before.tell (.stage (.occasion f.occasion))).Leads o
      (f.session.dispatch setup (f.guard setup) f.occasion) Q) :
    ∃ r w, Q r w ∧ f.after = f.ending setup r w := by
  have hrun := h.run
  by_cases hphase : f.occasion.phase = .afterTest
  · rw [worker, if_pos hphase] at hrun
    rw [guard, if_pos hphase, h.last hphase] at hleads
    refine (Session.leads_fireAfterTest (Q := fun _ w' => ∃ r w, Q r w ∧ w' = f.ending setup r w)).2
      (hleads.mono fun r w hQ => ?_) _ _ hrun
    cases r with
    | finished => exact ⟨_, w, hQ, (if_neg fun hand => by cases hand.2).symm⟩
    | timeUp => exact ⟨_, w, hQ, (if_pos ⟨hphase, rfl⟩).symm⟩
  · rw [worker, if_neg hphase] at hrun
    rw [guard, if_neg hphase] at hleads
    refine (Session.leads_fire (Q := fun _ w' => ∃ r w, Q r w ∧ w' = f.ending setup r w)).2 ?_ _ _
      hrun
    rw [h.goes hphase]
    exact hleads.mono fun r w hQ => ⟨r, w, hQ, (if_neg fun hand => hphase hand.1).symm⟩

/-- **All plugins that accept an occasion are served**, each of them once and in order, unless the
run has been stopped by the end of it. -/
theorem Comes.serves (h : f.Comes setup o) (hgoes : f.after.isStopped = false) {w₁ : World σ}
    (hfinds : f.Finds setup o w₁) : ∃ results,
      results.map Prod.fst =
        Registration.accepting f.session.registry f.occasion.phase f.occasion.tag ∧
      Session.Serves setup o f.session (f.guard setup) f.occasion
        (if f.session.registry.isEmpty then f.before.tell (.stage (.occasion f.occasion)) else w₁)
        results f.after := by
  obtain ⟨handles, hquery, hwindow⟩ := hfinds
  have hbefore := h.later.goes hgoes
  obtain ⟨r, w, hserves, hafter⟩ :=
    h.dispatched (Session.serves_dispatch (heeds_guard hbefore) hquery hwindow)
  unfold ending at hafter
  split at hafter
  · -- where their time has been up, the run counts as stopped
    rw [hafter, hbefore] at hgoes
    simp at hgoes
  · rename_i hnot
    subst hafter
    rcases hserves hgoes with ⟨rfl, hlimit⟩ | ⟨-, hserves⟩
    · -- only the plugins at the end of a test have a limit
      unfold guard at hlimit
      split at hlimit
      · rename_i hphase
        exact absurd ⟨hphase, rfl⟩ hnot
      · cases hlimit
    · exact hserves

end Firing
end PageScript
