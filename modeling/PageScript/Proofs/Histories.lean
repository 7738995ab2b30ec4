import PageScript.Proofs.WorldChanges
import PageScript.Proofs.Leads

/-!
# Histories

A history has the newest first, so that what lies behind something in the list is its past. A law
says of something that happens whether it may, given its past; a history abides by a law if
everything in it does. Whatever a worker asks for, the history only grows, a run that has been
stopped stays so, and a run has been stopped exactly if its history says so.
-/

namespace PageScript

/-- Everything in a history accords with a law, which sees what happens and its past. -/
def Abides (law : Happening → List Happening → Prop) (history : List Happening) : Prop :=
  ∀ h past, h :: past <:+ history → law h past

/-- The run has been stopped. -/
def Stopped (history : List Happening) : Prop :=
  ∃ who t, Happening.mark (.stopped who t) ∈ history

/-- A run is stopped only once. -/
def stopLaw : Happening → List Happening → Prop
  | .mark (.stopped ..), past => ¬ Stopped past
  | _, _ => True

section Laws

variable {law : Happening → List Happening → Prop} {h : Happening} {past history : List Happening}

@[simp] theorem abides_nil : Abides law [] := by
  intro h past hsuffix
  cases List.suffix_nil.1 hsuffix

@[simp] theorem abides_cons : Abides law (h :: past) ↔ law h past ∧ Abides law past := by
  constructor
  · intro hall
    exact ⟨hall h past List.suffix_rfl, fun h' past' hsuffix =>
      hall h' past' (hsuffix.trans (List.suffix_cons h past))⟩
  · rintro ⟨hlaw, hall⟩ h' past' hsuffix
    rcases List.suffix_cons_iff.1 hsuffix with heq | hsuffix
    · cases heq
      exact hlaw
    · exact hall h' past' hsuffix

instance decidableAbides [∀ h past, Decidable (law h past)] :
    ∀ history, Decidable (Abides law history)
  | [] => .isTrue abides_nil
  | _ :: past =>
    have := decidableAbides past
    decidable_of_iff _ abides_cons.symm

/-- What lies before and after the one stop of a run holds no other. -/
theorem Abides.stopper_eq {who who' : Stopper} {t t' : Duration} {later past : List Happening}
    (h : Abides stopLaw (later ++ .mark (.stopped who t) :: past))
    (hmem : .mark (.stopped who' t') ∈ later ++ .mark (.stopped who t) :: past) :
    who' = who := by
  rcases List.mem_append.1 hmem with hlater | hpast
  · obtain ⟨since, before, rfl⟩ := List.append_of_mem hlater
    -- a later stop has the one stop in its past
    rw [List.append_assoc] at h
    exact absurd ⟨who, t, by simp⟩ (h _ _ (List.suffix_append since _))
  · rcases List.mem_cons.1 hpast with heq | hpast
    · cases heq
      rfl
    · exact absurd ⟨who', t', hpast⟩ (h _ _ (List.suffix_append later _))

theorem Abides.suffix (h : Abides law history) (hsuffix : past <:+ history) : Abides law past :=
  fun h' past' hs => h h' past' (hs.trans hsuffix)

/-- A history tells of a stop if its newest entry or its past does. -/
theorem stopped_cons : Stopped (h :: past) ↔
    (∃ who t, h = .mark (.stopped who t)) ∨ Stopped past := by
  simp only [Stopped, List.mem_cons]
  constructor
  · rintro ⟨who, t, heq | hmem⟩
    · exact .inl ⟨who, t, heq.symm⟩
    · exact .inr ⟨who, t, hmem⟩
  · rintro (⟨who, t, rfl⟩ | ⟨who, t, hmem⟩)
    · exact ⟨who, t, .inl rfl⟩
    · exact ⟨who, t, .inr hmem⟩

theorem Stopped.of_suffix (h : Stopped past) (hsuffix : past <:+ history) : Stopped history := by
  obtain ⟨who, t, hmem⟩ := h
  exact ⟨who, t, hsuffix.subset hmem⟩

end Laws

namespace World

variable {σ α : Type} {o : Outside σ} {ok : Stopper → Prop} {w w' w'' : World σ}

/-- One world comes later in a run than another: nothing that has happened is undone, and time does
not go back. -/
structure Later (w w' : World σ) : Prop where
  history : w.history <:+ w'.history
  stopped : w.isStopped = true → w'.isStopped = true
  now_le : w.now ≤ w'.now

/-- The run has been stopped exactly if the history says so, which it says only once. -/
def Coherent (w : World σ) : Prop :=
  (w.isStopped = true ↔ Stopped w.history) ∧ Abides stopLaw w.history

theorem Later.refl (w : World σ) : w.Later w := ⟨List.suffix_rfl, id, Nat.le_refl _⟩

theorem Later.trans (h : w.Later w') (h' : w'.Later w'') : w.Later w'' :=
  ⟨h.history.trans h'.history, h'.stopped ∘ h.stopped, Nat.le_trans h.now_le h'.now_le⟩

theorem Later.goes (h : w.Later w') (hgoes : w'.isStopped = false) : w.isStopped = false :=
  Bool.eq_false_iff.2 fun hstop => by rw [h.stopped hstop] at hgoes; cases hgoes

theorem later_tell (w : World σ) (n : Notice) : w.Later (w.tell n) :=
  ⟨List.suffix_cons _ _, id, Nat.le_refl _⟩

theorem later_stop (w : World σ) (who : Stopper) : w.Later (w.stop who) := by
  refine ⟨?_, fun _ => isStopped_stop w who, Nat.le_of_eq (now_stop w who).symm⟩
  unfold stop
  split
  · exact List.suffix_rfl
  · exact List.suffix_cons _ _

theorem later_lookUntil (w : World σ) (next : Duration) : w.Later (w.lookUntil next) := by
  refine ⟨?_, fun h => by rwa [lookUntil_of_isStopped h], Nat.le_of_eq (now_lookUntil w next).symm⟩
  unfold lookUntil
  split
  · split
    · exact List.suffix_cons _ _
    · exact List.suffix_rfl
  · exact List.suffix_rfl

theorem Elapses.later (h : w.Elapses ok w') : w.Later w' := by
  induction h with
  | refl => exact .refl w
  | records r _ ih => exact ih.trans (later_tell _ _)
  | stops who _ _ _ ih => exact ih.trans (later_stop _ who)
  | @passes w' due next hnow _ _ ih =>
    -- the looks are added at the time before, and then time goes on
    have hlook := later_lookUntil w' next
    exact ih.trans ⟨hlook.history, hlook.stopped, hnow⟩
  | @trips w' _ _ _ ih =>
    have hcheck : w.Later (w'.withWatchdog (w'.watchdog.check w'.now)) :=
      ⟨ih.history, ih.stopped, ih.now_le⟩
    exact (hcheck.trans (later_stop _ .watchdog)).trans (later_tell _ _)
  | leaves _ ih => exact ⟨ih.history, ih.stopped, ih.now_le⟩
  | acts s _ ih => exact ⟨ih.history, ih.stopped, ih.now_le⟩

/-! ## Stops and what is told of them -/

theorem Coherent.not_stopped (h : w.Coherent) (hstop : w.isStopped = false) :
    ¬ Stopped w.history :=
  fun hst => by rw [h.1.2 hst] at hstop; cases hstop

theorem Coherent.goes (h : w.Coherent) (hnot : ¬ Stopped w.history) : w.isStopped = false :=
  Bool.eq_false_iff.2 (mt h.1.1 hnot)

/-- Telling anything but a stop leaves a coherent world coherent. -/
theorem Coherent.happen (h : w.Coherent) {new : Happening}
    (hnew : ∀ who t, new ≠ .mark (.stopped who t)) : (w.happen new).Coherent := by
  constructor
  · rw [show (w.happen new).isStopped = w.isStopped from rfl, h.1]
    change _ ↔ Stopped (new :: w.history)
    rw [stopped_cons]
    refine ⟨.inr, fun hor => hor.resolve_left ?_⟩
    rintro ⟨who, t, heq⟩
    exact hnew who t heq
  · refine abides_cons.2 ⟨?_, h.2⟩
    rw [stopLaw]
    · trivial
    · exact hnew

theorem Coherent.say (h : w.Coherent) (r : Remark) : (w.say r).Coherent :=
  h.happen fun who t heq => by cases r <;> cases heq

theorem Coherent.stop (h : w.Coherent) (who : Stopper) : (w.stop who).Coherent := by
  unfold World.stop
  split
  · exact h
  · rename_i hstop
    have hnot := h.not_stopped (Bool.eq_false_iff.2 hstop)
    exact ⟨iff_of_true rfl (stopped_cons.2 (.inl ⟨who, w.now, rfl⟩)), abides_cons.2 ⟨hnot, h.2⟩⟩

theorem Coherent.lookUntil (h : w.Coherent) (next : Duration) : (w.lookUntil next).Coherent := by
  unfold World.lookUntil
  cases hn : w.nextTick with
  | none => exact h
  | some tick =>
    dsimp only
    split
    · have hcoherent : ({ w with nextTick := some next } : World σ).Coherent := by
        unfold Coherent isStopped at h ⊢
        rwa [hn] at h
      exact hcoherent.happen fun who t heq => by cases heq
    · exact h

theorem Elapses.coherent (h : w.Elapses ok w') (hw : w.Coherent) : w'.Coherent := by
  induction h with
  | refl => exact hw
  | records r _ ih => exact ih.say _
  | stops who _ _ _ ih => exact ih.stop who
  | passes due next _ _ _ ih => exact ih.lookUntil next
  | @trips w' _ _ _ ih =>
    have hchecked : (w'.withWatchdog (w'.watchdog.check w'.now)).Coherent := ih
    exact (hchecked.stop _).say _
  | leaves _ ih => exact ih
  | acts s _ ih => exact ih

/-! ## Whole runs -/

/-- What every answer to a request keeps, a whole run keeps. -/
theorem leads_of_answer {P : World σ → Prop}
    (hanswer : ∀ w r x w', P w → w.answer o r = some (x, w') → P w') (p : Worker α) (h : P w) :
    w.Leads o p fun _ w' => P w' := by
  induction p generalizing w with
  | done a => exact leads_done a |>.2 h
  | ask r next ih => exact leads_ask r next |>.2 fun x w' hx => ih x (hanswer w r x w' h hx)

theorem later_noteStep (w : World σ) (s : Step) : w.Later (w.noteStep s) := by
  rcases s with (_ | _ | _ | _ | _) | _ | _ <;>
    first | exact .refl w | exact ⟨List.suffix_cons _ _, id, Nat.le_refl _⟩

theorem Coherent.noteStep (h : w.Coherent) (s : Step) : (w.noteStep s).Coherent := by
  rcases s with (_ | _ | _ | _ | _) | _ | _ <;>
    first | exact h | exact h.happen fun who t heq => by cases heq

theorem later_answer {r : Request} {x : r.Answer} (h : w.answer o r = some (x, w')) :
    w.Later w' := by
  cases r with
  | step g s =>
    obtain rfl : (w.step o g s).2 = w' := congrArg (·.2) (Option.some.inj h)
    exact (later_noteStep w s).trans (elapses_step o g w s).later
  | stop who => cases h; exact later_stop w _
  | tooDeep => cases h
  | _ => cases h; first | exact .refl w | exact ⟨List.suffix_cons _ _, id, Nat.le_refl _⟩

theorem Coherent.answer (hw : w.Coherent) {r : Request} {x : r.Answer}
    (h : w.answer o r = some (x, w')) : w'.Coherent := by
  cases r with
  | step g s =>
    obtain rfl : (w.step o g s).2 = w' := congrArg (·.2) (Option.some.inj h)
    exact (elapses_step o g w s).coherent (hw.noteStep s)
  | stop who => cases h; exact hw.stop _
  | say r => cases h; exact hw.say r
  | tooDeep => cases h
  | _ => cases h; first | exact hw | exact hw.happen fun who t heq => by cases heq

/-- **Nothing that has happened is undone**, whatever a worker asks for. -/
theorem leads_later (p : Worker α) : w.Leads o p fun _ w' => w.Later w' :=
  leads_of_answer (fun _ _ _ _ hlater h => hlater.trans (later_answer h)) p (.refl w)

theorem Coherent.leads (h : w.Coherent) (p : Worker α) : w.Leads o p fun _ w' => w'.Coherent :=
  leads_of_answer (fun _ _ _ _ hw h => hw.answer h) p h

/-! ## A watchdog that has tripped -/

/-- A watchdog that has tripped has stopped the run. -/
def TripStops (w : World σ) : Prop := w.watchdog.tripped = true → w.isStopped = true

theorem Elapses.tripStops (h : w.Elapses ok w') (hw : w.TripStops) : w'.TripStops := by
  induction h with
  | refl => exact hw
  | records r _ ih => exact ih
  | stops who _ _ _ _ => exact fun _ => isStopped_stop _ who
  | @passes w' due next _ _ _ ih =>
    intro htripped
    rw [watchdog_atTime, watchdog_lookUntil] at htripped
    exact (later_lookUntil w' next).stopped (ih htripped)
  | trips _ _ _ _ => exact fun _ => by simp [trip]
  | leaves _ ih => exact ih
  | acts s _ ih => exact ih

theorem TripStops.answer (hw : w.TripStops) {r : Request} {x : r.Answer}
    (h : w.answer o r = some (x, w')) : w'.TripStops := by
  cases r with
  | step g s =>
    obtain rfl : (w.step o g s).2 = w' := congrArg (·.2) (Option.some.inj h)
    have hnote : (w.noteStep s).TripStops := by
      rcases s with (_ | _ | _ | _ | _) | _ | _ <;> exact hw
    exact (elapses_step o g w s).tripStops hnote
  | stop who => cases h; exact fun _ => isStopped_stop w _
  | tooDeep => cases h
  | _ => cases h; exact hw

theorem coherent_dawn (setup : Setup) (calendar : Calendar) (stopAt : Option Duration)
    (outside : σ) : (dawn setup calendar stopAt outside).Coherent :=
  ⟨iff_of_false (by simp [isStopped, dawn]) (by simp [Stopped, dawn]),
    abides_cons.2 ⟨trivial, abides_nil⟩⟩

end World

section Runs

variable {σ : Type} {o : Outside σ} {setup : Setup} {calendar : Calendar}
  {stopAt : Option Duration} {events : List Event} {outside : σ} {ended : Ended σ}

theorem coherent_of_run (hrun : setup.run o calendar stopAt events outside = some ended) :
    ended.world.Coherent := by
  obtain ⟨⟨outcome, w⟩, hw, rfl⟩ := Option.map_eq_some_iff.1 hrun
  have hstart := (World.elapses_start setup calendar stopAt outside).coherent
    (World.coherent_dawn setup calendar stopAt outside)
  have hdone := hstart.leads _ outcome w hw
  exact (World.elapses_awaitOwner _).coherent ((World.elapses_settle w).coherent hdone)

theorem tripStops_of_run (hrun : setup.run o calendar stopAt events outside = some ended) :
    ended.world.TripStops := by
  obtain ⟨⟨outcome, w⟩, hw, rfl⟩ := Option.map_eq_some_iff.1 hrun
  have hdawn : (World.dawn setup calendar stopAt outside).TripStops := fun htripped => by
    cases htripped
  have hstart := (World.elapses_start setup calendar stopAt outside).tripStops hdawn
  have hdone := World.leads_of_answer (fun _ _ _ _ h => h.answer) _ hstart outcome w hw
  exact (World.elapses_awaitOwner _).tripStops ((World.elapses_settle w).tripStops hdone)

end Runs
end PageScript
