import PageScript.Proofs.AnsweredSteps
import PageScript.Proofs.Visits

/-!
# What carrying out an event leaves

An act may say things, ask the outside and change what the run remembers, but it makes no visit and
leaves the scopes of variables as many as they were. What a table event, an event that includes a
script, and an event on an element return is what the outside answers to the first action that they
ask for, in the state in which they find it. So an event that has been carried out leaves what its
kind says, and nothing else.
-/

namespace PageScript

variable {σ α β : Type} {o : Outside σ} {setup : Setup} {s s' : Session} {w w' : World σ}

namespace Session

/-- The scopes of variables are as many as they were. -/
def Steady (s s' : Session) : Prop := s.vars.SameShape s'.vars

theorem Steady.refl (s : Session) : s.Steady s := Vars.SameShape.refl _

theorem Steady.trans {s'' : Session} (h : s.Steady s') (h' : s'.Steady s'') : s.Steady s'' :=
  Vars.SameShape.trans h h'

theorem steady_edit (s : Session) (e : Edit) : s.Steady (s.edit e) := by
  cases e <;> first | exact .refl _ | exact ⟨by simp [edit], by simp [edit]⟩

/-- The scope of a row is one more than there were. -/
theorem steady_enterRow (s : Session) (cells : Row) :
    s.vars.push.SameShape (cells.foldl (fun v c => v.put c.1 c.2) s.vars.push) := by
  -- values are put into any scopes, not only into those that have just been entered
  generalize s.vars.push = v
  induction cells generalizing v with
  | nil => exact .refl v
  | cons c cells ih => exact Vars.SameShape.trans ⟨by simp, by simp⟩ (ih (v.put c.1 c.2))

end Session

namespace Stretch

/-- Of an end nothing need be said. -/
theorem leads_trivial (m : Stretch α) : Leads o m s w fun _ _ _ => True :=
  fun _ _ _ => trivial

theorem steady_move (m : Move) : Leads o (m.play setup) s w fun _ s' _ => s.Steady s' := by
  cases m with
  | edit e => exact leads_modify _ |>.2 (s.steady_edit e)
  | session => exact leads_get |>.2 (.refl s)
  | aroundClick side event element => exact leads_fire _ _ |>.2 fun _ _ _ => .refl s
  | plugin p element args =>
    rw [Move.play, leads_bind, leads_get, leads_ofWorker]
    exact fun _ _ _ => .refl s
  | _ => exact leads_ofWorker _ |>.2 fun _ _ _ => .refl s

/-- An act leaves the scopes as many as they were and makes no visit. -/
structure Unvisited (s : Session) (w : World σ) (s' : Session) (w' : World σ) : Prop where
  steady : s.Steady s'
  visits : World.Visits [] w w'

theorem Unvisited.trans {s'' : Session} {w'' : World σ} (h : Unvisited s w s' w')
    (h' : Unvisited s' w' s'' w'') : Unvisited s w s'' w'' :=
  ⟨h.steady.trans h'.steady, h.visits.trans h'.visits⟩

theorem unvisited_extend (s : Session) (w : World σ) (d : Duration) :
    Unvisited s w s (w.extend d) :=
  ⟨.refl s, .of_eq rfl rfl⟩

theorem unvisited_act (a : Act α) :
    Leads o (a.play setup) s w fun _ s' w' => Unvisited s w s' w' := by
  have hsteady : Leads o (a.play setup) s w fun _ s' _ => s.Steady s' := by
    unfold Act.play
    generalize a.run = p
    induction p generalizing s w with
    | done r => exact leads_pure r |>.2 (.refl s)
    | ask m next ih =>
      rw [Program.handle, leads_bind]
      exact (steady_move m).mono fun x s' w' h => (ih x).mono fun _ _ _ => h.trans
  exact (hsteady.and ((World.kept_adds o w).play a (.refl _ w))).mono
    fun _ _ _ h => ⟨h.1, h.2.visits fun _ => idle_aside⟩

/-! ## What acts return -/

section Answers

variable {event : Event} {parent : Option Element} {F : Except Mishap α → Session → World σ → Prop}

/-- What an action that is performed returns is what the outside answers in the state it is in. -/
theorem leads_perform (a : Action) {F : Except Mishap a.Answer → Session → World σ → Prop}
    (hanswered : ∀ x after w', (o a w.outside).ending = some (x, after) → F (.ok x) s w')
    (hfailed : ∀ m w', F (.error m) s w') :
    Leads o (Act.play setup (Act.perform a)) s w F := by
  rw [Act.perform, Act.step, leads_play_bind, leads_play_move, Move.play, leads_ofWorker,
    World.leads_guarded]
  split
  · exact leads_play_fail _ |>.2 (hfailed _ _)
  · rcases hres : w.step o (.untilStop none) (.act a) with ⟨cut | x, w'⟩
    · exact leads_play_fail _ |>.2 (hfailed _ _)
    · exact leads_play_pure _ |>.2 (hanswered x _ _ (World.ending_of_act hres))

theorem answers_perform (a : Action) : Leads o (Act.play setup (Act.perform a)) s w
    fun r _ _ => ∀ x, r = .ok x → o.Answers a x :=
  leads_perform a (fun _ after _ hending _ heq => by cases heq; exact ⟨_, after, hending⟩)
    fun _ _ _ heq => by cases heq

theorem leads_fill (raw : String) {F : Except Mishap String → Session → World σ → Prop} :
    Leads o (Act.play setup (Act.fill setup raw)) s w F ↔
      F (.ok (substitute setup.hijacks s.vars raw)) s w := by
  rw [Act.fill, Act.session, leads_play_bind, leads_play_move]
  exact leads_get.trans (leads_play_pure _)

theorem leads_action? (name : String)
    {F : Except Mishap (Option String) → Session → World σ → Prop} :
    Leads o (Act.play setup (Act.action? setup event name)) s w F ↔
      F (.ok ((event.actions.text? name).map (substitute setup.hijacks s.vars))) s w := by
  unfold Act.action?
  cases event.actions.text? name with
  | none => exact leads_play_pure _
  | some raw =>
    rw [Act.fill?, leads_play_bind, leads_fill]
    exact leads_play_pure _

/-- The text that an event must have is there, or the event fails. -/
theorem leads_required {name : String} {F : Except Mishap String → Session → World σ → Prop}
    (hsome : ∀ text, (event.actions.text? name).map (substitute setup.hijacks s.vars) = some text →
      F (.ok text) s w) (hnone : ∀ m, F (.error m) s w) :
    Leads o (Act.play setup (Act.require setup event name)) s w F := by
  rw [Act.require, leads_play_bind, leads_action?]
  dsimp only
  cases htext : (event.actions.text? name).map (substitute setup.hijacks s.vars) with
  | none => exact leads_play_fail _ |>.2 (hnone _)
  | some text => exact leads_play_pure _ |>.2 (hsome text htext)

/-- The table that is chosen is the pending one or else the event's own, and the variables stay. -/
theorem leads_chooseTable {F : Except Mishap String → Session → World σ → Prop}
    (hsome : ∀ file s', s'.vars = s.vars → s.pendingTable.or
      ((event.actions.text? "file").map (substitute setup.hijacks s.vars)) = some file →
        F (.ok file) s' w) (hnone : ∀ m, F (.error m) s w) :
    Leads o (Act.play setup (Act.chooseTable setup event)) s w F := by
  rw [Act.chooseTable, Act.session, leads_play_bind, leads_play_move, Move.play, leads_get]
  dsimp only
  cases hpending : s.pendingTable with
  | some file =>
    rw [leads_play_bind, Act.edit, leads_play_move, Move.play, leads_modify]
    refine leads_play_pure _ |>.2 (hsome file _ rfl ?_)
    rw [hpending, Option.some_or]
  | none =>
    refine leads_required (fun text htext => hsome text s rfl ?_) hnone
    rw [hpending, Option.none_or, htext]

/-- A file is read as the outside answers. -/
theorem leads_readFile (path : String) {F : Except Mishap String → Session → World σ → Prop}
    (hread : ∀ text after w', (o (.readFile path) w.outside).ending = some (.ok text, after) →
      F (.ok text) s w') (hfailed : ∀ m w', F (.error m) s w') :
    Leads o (Act.play setup (Act.readFile path)) s w F := by
  rw [Act.readFile, leads_play_bind]
  refine leads_perform _ (fun x after w' hending => ?_) hfailed
  cases x with
  | error e => exact leads_play_fail _ |>.2 (hfailed _ _)
  | ok text => exact leads_play_pure _ |>.2 (hread text after w' hending)

/-- A table event returns the data rows of the file that it names, or no rows if it only names the file
of the next one. -/
theorem opens_csv (hkind : event.kind = .command .csv) (parent : Option Element) :
    Leads o (Act.play setup (Act.csv setup event)) s w fun r _ _ =>
      ∀ rows, r = .ok rows → Opens setup o event parent s w.outside { inner := .rows rows } := by
  have hfails (m : Mishap) : ∀ rows, Except.error m = .ok rows →
      Opens setup o event parent s w.outside { inner := .rows rows } :=
    fun _ heq => by cases heq
  rw [Act.csv, leads_play_bind, leads_action?]
  dsimp only
  cases hover : event.actions.text? "override" with
  | some raw =>
    dsimp only [Option.map_some]
    rw [leads_play_bind, Act.log, leads_play_say]
    dsimp only
    rw [leads_play_bind, Act.edit, leads_play_move, Move.play, leads_modify]
    refine leads_play_pure _ |>.2 fun rows heq => ?_
    cases heq
    exact .noRows hkind (by rw [hover]; rfl)
  | none =>
    dsimp only [Option.map_none]
    rw [leads_play_bind]
    refine leads_chooseTable (fun file s' hvars hchosen => ?_) hfails
    dsimp only
    rw [leads_play_bind, leads_action?, hvars]
    dsimp only
    rw [leads_play_bind]
    refine leads_readFile _ (fun text after w' hread => ?_) fun m _ => hfails m
    dsimp only
    rw [leads_play_bind, Act.log, leads_play_say]
    refine leads_play_pure _ |>.2 fun rows heq => ?_
    cases heq
    have hfile : event.file? setup s = some file := by
      rw [Event.file?, if_pos hkind, hover]
      exact hchosen
    exact .rows hkind hfile hread

/-- An event that includes a script returns the events that have been loaded from its file. -/
theorem opens_script (hkind : event.kind = .command .script) (parent : Option Element) :
    Leads o (Act.play setup (Act.script setup event)) s w fun r _ _ =>
      ∀ loaded, r = .ok loaded →
        Opens setup o event parent s w.outside { inner := .events loaded } := by
  have hfails (m : Mishap) : ∀ loaded, Except.error m = .ok loaded →
      Opens setup o event parent s w.outside { inner := .events loaded } :=
    fun _ heq => by cases heq
  rw [Act.script, leads_play_bind]
  refine leads_required (fun file hfile => ?_) hfails
  dsimp only
  split
  · rw [leads_play_bind]
    exact leads_play_fail _ |>.2 (hfails _)
  rw [leads_play_bind]
  refine leads_perform _ (fun x after w' hending => ?_) fun m _ => hfails m
  cases x with
  | error e => exact leads_play_fail _ |>.2 (hfails _)
  | ok events =>
    dsimp only
    rw [leads_play_bind, Act.log, leads_play_say]
    refine leads_play_pure _ |>.2 fun loaded heq => ?_
    cases heq
    have hnamed : event.file? setup s = some file := by
      rw [Event.file?, if_neg (by rw [hkind]; decide)]
      exact hfile
    exact .script hkind hnamed hending

/-- The selectors of an event are those that it wants, with the variables as they stand. -/
theorem leads_selectors {F : Except Mishap (List (String × String)) → Session → World σ → Prop}
    (h : F (.ok (event.wanted setup s.vars)) s w) :
    Leads o (Act.play setup (Act.selectors setup event)) s w F := by
  unfold Event.wanted at h
  unfold Act.selectors
  generalize event.selectors.entries = entries at h ⊢
  induction entries generalizing F with
  | nil =>
    rw [List.mapM_nil]
    exact leads_play_pure _ |>.2 h
  | cons entry entries ih =>
    rw [List.mapM_cons, leads_play_bind, leads_play_bind, leads_fill]
    refine leads_play_pure _ |>.2 (leads_play_bind _ _ |>.2 (ih ?_))
    exact leads_play_pure _ |>.2 h

/-- What an act returns is as said if what comes last in it is so. -/
theorem leads_play_last {a : Act β} {f : β → Act α} {Q : α → Prop}
    (h : ∀ b s w, Leads o ((f b).play setup) s w fun r _ _ => ∀ x, r = .ok x → Q x) :
    Leads o (Act.play setup (a >>= f)) s w fun r _ _ => ∀ x, r = .ok x → Q x := by
  rw [leads_play_bind]
  refine (leads_trivial _).mono fun r s' w' _ => ?_
  cases r with
  | error m => exact fun _ heq => by cases heq
  | ok b => exact h b s' w'

/-- The element that is located is the one that is found below the parent for what the event wants. -/
theorem leads_locate : Leads o (Act.play setup (Act.locate setup event parent)) s w
    fun r _ _ => ∀ element, r = .ok element → ∃ after,
      (o (.call (.find (event.wanted setup s.vars) parent setup.elementPatience)) w.outside).ending =
        some (.ok element, after) := by
  rw [Act.locate, leads_play_bind]
  refine leads_selectors ?_
  dsimp only
  rw [leads_play_bind]
  refine leads_perform _ (fun x after w' hending => ?_) fun m _ _ heq => by cases heq
  cases x with
  | error e =>
    dsimp only
    split
    · rename_i heq
      cases heq
    · exact leads_play_last fun _ s w => leads_play_fail _ |>.2 fun _ heq => by cases heq
    · exact leads_play_fail _ |>.2 fun _ heq => by cases heq
  | ok element =>
    dsimp only
    split
    · exact leads_play_last fun _ s w => leads_play_fail _ |>.2 fun _ heq => by cases heq
    · refine leads_play_pure _ |>.2 fun found heq => ?_
      cases heq
      exact ⟨after, hending⟩

/-- An event for an element returns the one that has been found. -/
theorem opens_element (hcan : event.kind.can .needsElement = true) (parent : Option Element) :
    Leads o (Act.play setup (Act.element setup event parent)) s w fun r _ _ =>
      ∀ element, r = .ok element →
        Opens setup o event parent s w.outside { element := some element } := by
  rw [Act.element, leads_play_bind]
  refine leads_locate.mono fun r s' w' h => ?_
  cases r with
  | error m => exact fun _ heq => by cases heq
  | ok element =>
    obtain ⟨after, hending⟩ := h element rfl
    refine leads_play_last fun _ s w => leads_play_pure _ |>.2 fun found heq => ?_
    cases heq
    exact .element hcan hending

end Answers

/-! ## Events -/

/-- Part of an event that makes no visit, and if it is not given up leaves what is said. -/
def Carries (o : Outside σ) (p : Passage Opened) (s : Session) (w : World σ) (Q : Opened → Prop) :
    Prop :=
  Leads o p.run s w fun r s' w' => Unvisited s w s' w' ∧ ∀ opened, r = .ok opened → Q opened

section Carries

variable {Q : Opened → Prop}

theorem carries_pure {opened : Opened} (h : Q opened) : Carries o (pure opened) s w Q :=
  leads_run_pure _ |>.2 ⟨⟨.refl s, .refl w⟩, fun _ heq => by cases heq; exact h⟩

theorem carries_extend {p : Passage Opened} (d : Duration) (h : Carries o p s (w.extend d) Q) :
    Carries o (Passage.extend d >>= fun _ => p) s w Q := by
  unfold Carries
  rw [leads_run_bind, leads_passage_extend]
  exact Leads.mono h fun _ _ _ h' => ⟨(unvisited_extend s w d).trans h'.1, h'.2⟩

/-- An act comes first, and what comes after it may count on what the act returns. -/
theorem carries_act {R : α → Prop} {a : Act α} {f : α → Passage Opened}
    (ha : Leads o (a.play setup) s w fun r _ _ => ∀ x, r = .ok x → R x)
    (h : ∀ x s' w', R x → Carries o (f x) s' w' Q) :
    Carries o (Passage.act setup a >>= f) s w Q := by
  unfold Carries
  rw [leads_run_bind]
  refine ((unvisited_act a).and ha).mono ?_
  rintro r s' w' ⟨hun, hR⟩
  cases r with
  | error m => exact ⟨hun, fun _ heq => by cases heq⟩
  | ok x => exact Leads.mono (h x s' w' (hR x rfl)) fun _ _ _ h' => ⟨hun.trans h'.1, h'.2⟩

/-- What the act returns does not matter. -/
theorem carries_act_any {a : Act α} {f : α → Passage Opened}
    (h : ∀ x s' w', Carries o (f x) s' w' Q) : Carries o (Passage.act setup a >>= f) s w Q :=
  carries_act ((leads_trivial _).mono fun _ _ _ _ _ _ => trivial) fun x s' w' (_ : True) => h x s' w'

/-- **An event that has been carried out leaves what its kind says.** -/
theorem carries_carryOut (event : Event) (parent : Option Element) :
    Carries o (Passage.carryOut setup event parent) s w
      (Opens setup o event parent s w.outside) := by
  unfold Passage.carryOut
  cases hkind : event.kind with
  | frame => exact carries_act_any fun _ _ _ => carries_pure (.frame hkind)
  | markup m =>
    have hcan : event.kind.can .needsElement = true := by rw [hkind]; rfl
    exact carries_act (opens_element hcan parent) fun _ _ _ => carries_pure
  | control c =>
    have hcan : event.kind.can .needsElement = true := by rw [hkind]; cases c <;> rfl
    exact carries_act (opens_element hcan parent) fun _ _ _ => carries_pure
  | command c =>
    have hplain (hne : c ≠ .csv) (hne' : c ≠ .script) (r : Restore) (s' : Session) (w' : World σ) :
        Carries o (pure { restore := r }) s' w' (Opens setup o event parent s w.outside) :=
      carries_pure (.command c r hkind hne hne')
    cases c with
    | csv => exact carries_act (opens_csv hkind parent) fun _ _ _ => carries_pure
    | script => exact carries_act (opens_script hkind parent) fun _ _ _ => carries_pure
    | wait =>
      exact carries_act_any fun secs _ _ => carries_extend _ <|
        carries_act_any fun _ => hplain (by simp) (by simp) .nothing
    | attach =>
      exact carries_act_any fun _ _ _ => carries_extend _ <|
        carries_act_any fun _ => hplain (by simp) (by simp) _
    | _ => exact carries_act_any fun _ => hplain (by simp) (by simp) .nothing

end Carries

/-- An event starts and is carried out, which makes one visit. -/
theorem visits_openEvent (event : Event) (parent : Option Element) :
    Leads o (Passage.openEvent setup event parent).run s
      (w.tell (.stage (.started event parent))).pulse fun r s' w' =>
        s.Steady s' ∧ World.Visits [⟨event, parent, r⟩] w w' ∧
          ∀ opened, r = .ok opened → Opens setup o event parent s w.outside opened := by
  rw [Passage.openEvent, leads_run_bind, leads_run_lift]
  refine Leads.mono (carries_carryOut event parent) ?_
  rintro r s' w' ⟨hun, hopens⟩
  dsimp only
  rw [leads_run_bind, leads_passage_tell]
  -- the start lies before what the event was carried out by, and the result after it
  refine leads_pure r |>.2 ⟨hun.steady, ⟨?_, ?_⟩, hopens⟩
  · have hstarts := hun.visits.starts_eq
    simpa [starts, Visit.start] using hstarts
  · have hresults := hun.visits.results_eq
    simpa [results, Visit.outcome] using hresults

end Stretch
end PageScript
