import PageScript.Proofs.Leads

/-!
# What a run asks of the outside

The history of a run holds its calls of the browser, but not what it asks for besides: files,
programs, and scripts. `World.asked` gives all of it, in order, for a worker that starts in some
world. `World.Asks` and `Stretch.Asks` say what holds of everything that is asked for on the way to
an end together with this end; like `Leads` they follow the program, and what a bind asks for is what
its first part asks for and then the second one.
-/

namespace PageScript

variable {σ α β ε : Type} {o : Outside σ}

/-- The action that a request asks for, if it does. -/
def Request.action? : Request → Option Action
  | .step _ (.act a) => some a
  | _ => none

namespace World

/-- The actions that a worker asks for, in order. -/
def asked (o : Outside σ) : Worker α → World σ → List Action
  | .done _, _ => []
  | .ask r next, w =>
    r.action?.toList ++
      match w.answer o r with
      | some (x, w) => asked o (next x) w
      | none => []

/-- At every end of a worker that starts in this world, it is as said with all that it has asked for. -/
def Asks (o : Outside σ) (w : World σ) (p : Worker α) (Q : List Action → α → World σ → Prop) :
    Prop :=
  ∀ a w', run o p w = some (a, w') → Q (asked o p w) a w'

variable {w : World σ} {Q : List Action → α → World σ → Prop}

theorem Asks.mono {p : Worker α} {R : List Action → α → World σ → Prop} (h : w.Asks o p Q)
    (imp : ∀ l a w', Q l a w' → R l a w') : w.Asks o p R :=
  fun a w' hrun => imp _ a w' (h a w' hrun)

theorem asks_done (a : α) : w.Asks o (.done a) Q ↔ Q [] a w := by
  refine ⟨fun h => h a w rfl, fun h b w' hrun => ?_⟩
  obtain ⟨rfl, rfl⟩ := Prod.mk.inj (Option.some.inj hrun)
  exact h

theorem asks_ask (r : Request) (next : r.Answer → Worker α) :
    w.Asks o (.ask r next) Q ↔ ∀ x w', w.answer o r = some (x, w') →
      w'.Asks o (next x) fun l => Q (r.action?.toList ++ l) := by
  refine ⟨fun h x w₁ hanswer a w' hrun => ?_, fun h a w' hrun => ?_⟩
  · have := h a w' (by rw [run_ask, hanswer]; exact hrun)
    rwa [asked, hanswer] at this
  · rw [run_ask] at hrun
    obtain ⟨⟨x, w₁⟩, hanswer, hrest⟩ := Option.bind_eq_some_iff.1 hrun
    rw [asked, hanswer]
    exact h x w₁ hanswer a w' hrest

/-- What comes after a worker asks for more. -/
theorem asks_bind (p : Worker β) (f : β → Worker α) :
    w.Asks o (p >>= f) Q ↔
      w.Asks o p fun l b w' => w'.Asks o (f b) fun l' => Q (l ++ l') := by
  induction p generalizing w Q with
  | done b =>
    rw [asks_done]
    rfl
  | ask r next ih =>
    rw [Program.ask_bind, asks_ask, asks_ask]
    refine forall_congr' fun x => forall_congr' fun w' => imp_congr_right fun _ => ?_
    rw [ih]
    simp only [List.append_assoc]

theorem asks_request {r : Request} {x : r.Answer} {w' : World σ} (h : w.answer o r = some (x, w'))
    {Q : List Action → r.Answer → World σ → Prop} :
    w.Asks o (Program.request r) Q ↔ Q r.action?.toList x w' := by
  rw [Program.request, asks_ask]
  simp only [h, Option.some.injEq, Prod.mk.injEq, and_imp, asks_done, List.append_nil]
  exact ⟨fun hall => hall x w' rfl rfl, fun hx _ _ hy hw => hy ▸ hw ▸ hx⟩

theorem asks_say (r : Remark) {Q : List Action → Unit → World σ → Prop} :
    w.Asks o (Worker.say r) Q ↔ Q [] () (w.say r) :=
  asks_request (r := .say r) rfl

theorem asks_tell (s : Stage) {Q : List Action → Unit → World σ → Prop} :
    w.Asks o (Worker.tell s) Q ↔ Q [] () (w.tell (.stage s)) :=
  asks_request (r := .tell s) rfl

theorem asks_isStopped {Q : List Action → Bool → World σ → Prop} :
    w.Asks o Worker.isStopped Q ↔ Q [] w.isStopped w :=
  asks_request (r := .isStopped) rfl

/-- A step under a guard asks for its action, unless a stop that the guard heeds has come before. -/
theorem asks_guarded (g : Guard) (a : Action) {Q : List Action → Except Cut a.Answer → World σ → Prop}
    (hleft : w.isStopped = true → Q [] (.error .cancelled) w)
    (hasked : Q [a] (w.step o g (.act a)).1 (w.step o g (.act a)).2) :
    w.Asks o (Worker.guarded g (.act a)) Q := by
  rw [Worker.guarded, Worker.unlessStopped, asks_bind, asks_isStopped]
  split
  · rename_i hheeds
    exact asks_done _ |>.2 (hleft (Bool.and_eq_true_iff.1 hheeds).2)
  · exact asks_request (r := .step g (.act a)) rfl |>.2 hasked

end World

/-- At every end of a stretch that starts with this session in this world, it is as said with all
that the stretch has asked for. -/
def Stretch.Asks (o : Outside σ) (m : Stretch α) (s : Session) (w : World σ)
    (Q : List Action → α → Session → World σ → Prop) : Prop :=
  w.Asks o (m s) fun l p w' => Q l p.1 p.2 w'

namespace Stretch

variable {s : Session} {w : World σ} {Q : List Action → α → Session → World σ → Prop}

theorem Asks.mono {m : Stretch α} {R : List Action → α → Session → World σ → Prop}
    (h : Asks o m s w Q) (imp : ∀ l a s' w', Q l a s' w' → R l a s' w') : Asks o m s w R :=
  World.Asks.mono h fun l p w' => imp l p.1 p.2 w'

theorem asks_pure (a : α) : Asks o (pure a) s w Q ↔ Q [] a s w :=
  World.asks_done (a, s)

/-- Nothing is asked for after the end. -/
theorem asks_pure_append (l : List Action) (a : α) :
    (Asks o (pure a) s w fun l' => Q (l ++ l')) = Q l a s w := by
  rw [asks_pure, List.append_nil]

theorem asks_bind (m : Stretch β) (f : β → Stretch α) :
    Asks o (m >>= f) s w Q ↔
      Asks o m s w fun l b s' w' => Asks o (f b) s' w' fun l' => Q (l ++ l') :=
  World.asks_bind (m s) fun p => f p.1 p.2

theorem asks_get {Q : List Action → Session → Session → World σ → Prop} :
    Asks o get s w Q ↔ Q [] s s w :=
  World.asks_done (s, s)

theorem asks_modify (f : Session → Session) {Q : List Action → PUnit → Session → World σ → Prop} :
    Asks o (modify f) s w Q ↔ Q [] ⟨⟩ (f s) w :=
  World.asks_done (PUnit.unit, f s)

theorem asks_ofWorker (p : Worker α) :
    Asks o (ofWorker p) s w Q ↔ w.Asks o p fun l a w' => Q l a s w' := by
  refine (World.asks_bind p fun a => pure (a, s)).trans ?_
  refine iff_of_eq (congrArg _ ?_)
  funext l a w'
  exact asks_pure_append l a

theorem asks_run_pure {R : List Action → Except ε α → Session → World σ → Prop} (a : α) :
    Asks o (pure a : ExceptT ε Stretch α).run s w R ↔ R [] (.ok a) s w :=
  asks_pure (Except.ok a)

theorem asks_run_lift {R : List Action → Except ε α → Session → World σ → Prop} (m : Stretch α) :
    Asks o (ExceptT.lift m : ExceptT ε Stretch α).run s w R ↔
      Asks o m s w fun l a => R l (.ok a) := by
  rw [ExceptT.run_lift, map_eq_pure_bind, asks_bind]
  refine iff_of_eq (congrArg _ ?_)
  funext l a s' w'
  exact asks_pure_append l (Except.ok a)

theorem asks_run_bind {R : List Action → Except ε α → Session → World σ → Prop}
    (m : ExceptT ε Stretch β) (f : β → ExceptT ε Stretch α) :
    Asks o (m >>= f).run s w R ↔
      Asks o m.run s w fun l r s' w' =>
        match r with
        | .ok b => Asks o (f b).run s' w' fun l' => R (l ++ l')
        | .error e => R l (.error e) s' w' := by
  rw [ExceptT.run_bind, asks_bind]
  refine iff_of_eq (congrArg _ ?_)
  funext l r s' w'
  cases r with
  | ok b => rfl
  | error e => exact asks_pure_append l (Except.error e)

/-! ## Acts -/

section Acts

variable {setup : Setup} {F : List Action → Except Mishap α → Session → World σ → Prop}

theorem asks_play_pure (a : α) :
    Asks o (Act.play setup (pure a)) s w F ↔ F [] (.ok a) s w :=
  asks_pure (Except.ok a)

theorem asks_play_fail (m : Mishap) :
    Asks o (Act.play setup (Act.fail m)) s w F ↔ F [] (.error m) s w :=
  asks_pure (Except.error m)

theorem asks_play_bind (a : Act β) (f : β → Act α) :
    Asks o (Act.play setup (a >>= f)) s w F ↔
      Asks o (a.play setup) s w fun l r s' w' =>
        match r with
        | .ok b => Asks o ((f b).play setup) s' w' fun l' => F (l ++ l')
        | .error e => F l (.error e) s' w' := by
  rw [Act.play, ExceptT.run_bind, Program.handle_bind, asks_bind]
  refine iff_of_eq (congrArg _ ?_)
  funext l r s' w'
  cases r with
  | ok b => rfl
  | error e => exact asks_pure_append l (Except.error e)

theorem asks_play_move (m : Move) {F : List Action → Except Mishap m.Answer → Session → World σ → Prop} :
    Asks o (Act.play setup (Act.move m)) s w F ↔
      Asks o (m.play setup) s w fun l x => F l (.ok x) := by
  have hmove : Act.play setup (Act.move m) = m.play setup >>= fun x => pure (Except.ok x) := rfl
  rw [hmove, asks_bind]
  refine iff_of_eq (congrArg _ ?_)
  funext l x s' w'
  exact asks_pure_append l (Except.ok x)

end Acts

end Stretch
end PageScript
