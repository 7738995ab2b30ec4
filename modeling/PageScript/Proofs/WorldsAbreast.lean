import PageScript.Proofs.DryRuns
import PageScript.Proofs.ActCalls
import PageScript.Proofs.ForsakenRuns
import PageScript.Proofs.NoPlugins

/-!
# Worlds abreast

Two worlds are abreast if the clock, the owner and the outside are the same in both, if both runs
have been stopped or neither has, if the same calls have been made, and if one of them has at most
some lines more in its report, all of them of a kind. They may differ in what the supervisor knows:
in when there was progress, and in when the supervisor looks next.

The supervisor bears on a run only by a watchdog that trips. As long as none does, what comes next
goes the same way in both worlds, and leaves them abreast. Some things may also happen in one of them
alone: a line of that kind, progress, and an action of the outside that takes no time and changes
nothing. It takes no time only because the owner does not come late: as long as the run has not been
stopped, the owner is yet to come.
-/

namespace PageScript

variable {σ α β γ : Type}

/-! ## Further entries of a kind -/

/-- One list is the other one with further entries of a kind. -/
inductive Padded (own : α → Prop) : List α → List α → Prop where
  | nil : Padded own [] []
  | both (a : α) {l l' : List α} : Padded own l l' → Padded own (a :: l) (a :: l')
  | left {a : α} {l l' : List α} : own a → Padded own l l' → Padded own (a :: l) l'

namespace Padded

variable {own : α → Prop} {l l' k k' : List α}

theorem refl (own : α → Prop) (l : List α) : Padded own l l := by
  induction l with
  | nil => exact .nil
  | cons a l ih => exact .both a ih

theorem append (h : Padded own l l') (h' : Padded own k k') : Padded own (l ++ k) (l' ++ k') := by
  induction h with
  | nil => exact h'
  | both a _ ih => exact .both a ih
  | left ha _ ih => exact .left ha ih

theorem reverse (h : Padded own l l') : Padded own l.reverse l'.reverse := by
  induction h with
  | nil => exact .nil
  | both a _ ih =>
    rw [List.reverse_cons, List.reverse_cons]
    exact ih.append (.refl own [a])
  | @left a l l' ha _ ih =>
    rw [List.reverse_cons, ← l'.reverse.append_nil]
    exact ih.append (.left ha .nil)

/-- What passes over the further entries does not see a difference. -/
theorem foldl_eq {f : β → α → β} (hown : ∀ b a, own a → f b a = b) (h : Padded own l l') (b : β) :
    l'.foldl f b = l.foldl f b := by
  induction h generalizing b with
  | nil => rfl
  | both a _ ih => exact ih (f b a)
  | left ha _ ih => rw [List.foldl_cons, hown b _ ha, ih]

theorem filter_eq {p : α → Bool} (hown : ∀ a, own a → p a = false) (h : Padded own l l') :
    l'.filter p = l.filter p := by
  induction h with
  | nil => rfl
  | both a _ ih => rw [List.filter_cons, List.filter_cons, ih]
  | left ha _ ih => rw [List.filter_cons_of_neg (by rw [hown _ ha]; decide), ih]

end Padded

/-! ## The same elements -/

theorem FrameTarget.Akin.eq {t t' : FrameTarget} (h : t.Akin Eq t') : t' = t := by
  cases h with
  | refl => rfl
  | element he => rw [he]

theorem Remark.Akin.eq {r r' : Remark} (h : r.Akin Eq r') : r' = r := by
  cases h with
  | refl => rfl
  | stored name he => rw [he]
  | switched ht => rw [ht.eq]

/-- Two calls that are of the same elements are the same, and so are their answers. -/
theorem Call.Akin.eq {c c' : Call} {A : c.Answer → c'.Answer → Prop} (h : c.Akin Eq c' A) :
    c' = c ∧ ∀ x x', HEq x' x → A x x' := by
  cases h with
  | find selectors patience hparent =>
    cases hparent
    all_goals
      subst_vars
      exact ⟨rfl, fun x x' heq => (eq_of_heq heq).symm⟩
  | switchToFrame ht =>
    obtain rfl := ht.eq
    exact ⟨rfl, fun x x' heq => (eq_of_heq heq).symm⟩
  | _ =>
    subst_vars
    exact ⟨rfl, fun x x' heq => (eq_of_heq heq).symm⟩

/-! ## What takes no time -/

/-- Takes no time and stops nothing. -/
def Beat.Idle : Beat → Prop
  | .giveWay | .note _ => True
  | .rest _ | .stop => False

/-- An outside in some state that answers at once, and leaves this state as it is. -/
structure Conduct.AtOnce (c : Conduct σ α) (s : σ) (x : α) : Prop where
  start_eq : c.start = s
  idle : ∀ beat ∈ c.beats, beat.Idle
  ending : c.ending = some (x, s)

namespace World

variable {o : Outside σ} {own : Report → Prop} {w w' v v' : World σ} {g : Guard}

/-! ## What is not seen -/

/-- The watchdog has not stopped the run. -/
def Untripped (w : World σ) : Prop :=
  ∀ t, Happening.mark (.stopped .watchdog t) ∉ w.history

theorem Untripped.before (h : w'.Untripped) (hlater : w.Later w') : w.Untripped :=
  fun t hmem => h t (hlater.history.subset hmem)

/-- What there is to see of a world besides the time. -/
structure Trace (σ : Type) where
  calendar : Calendar
  outside : σ
  calls : List Call
  /-- The reports, the newest first. -/
  reports : List Report

def trace (w : World σ) : Trace σ where
  calendar := w.calendar
  outside := w.outside
  calls := calls w.history
  reports := w.history.filterMap shown?

section Trace

variable (w : World σ)

@[simp] theorem trace_withOutside (s : σ) :
    (w.withOutside s).trace = { w.trace with outside := s } := rfl

theorem trace_tell (n : Notice) :
    (w.tell n).trace = { w.trace with reports := n.report?.toList ++ w.trace.reports } := by
  have hshown : (w.tell n).history.filterMap shown? =
      n.report?.toList ++ w.history.filterMap shown? := by
    rw [history_tell, List.filterMap_cons, shown?]
    cases n.report? <;> rfl
  rw [trace, hshown, history_tell, calls_notice]
  rfl

theorem trace_mark (m : Mark) : (w.tell (.mark m)).trace = w.trace := w.trace_tell _

theorem trace_noteCall (a : Action) : (w.noteCall a).trace =
    { w.trace with calls := w.trace.calls ++ (match a with | .call c => [c] | _ => []) } := by
  cases a with
  | call c => rw [trace, noteCall, happen, calls_called]; rfl
  | _ => rw [List.append_nil]; rfl

@[simp] theorem trace_pulse : w.pulse.trace = w.trace := trace_mark _ _

@[simp] theorem trace_extend (d : Duration) : (w.extend d).trace = w.trace := trace_mark _ _

@[simp] theorem trace_stop (who : Stopper) : (w.stop who).trace = w.trace := by
  unfold stop
  split
  · rfl
  · exact trace_mark _ _

@[simp] theorem trace_lookUntil (next : Duration) : (w.lookUntil next).trace = w.trace := by
  unfold lookUntil
  split
  · split
    · exact trace_mark _ _
    · rfl
  · rfl

@[simp] theorem trace_reach (due : Duration) (first : Bool) :
    (w.reach due first).trace = w.trace := by
  unfold reach
  split
  · exact trace_lookUntil w _
  · rfl

@[simp] theorem trace_ownerStops : w.ownerStops.trace = w.trace :=
  (trace_tell _ _).trans (trace_stop w .owner)

@[simp] theorem trace_sound_owner (t : Duration) : (w.sound (.owner t)).trace = w.trace :=
  (trace_ownerStops _).trans (trace_reach w _ _)

theorem stopAt_stop (who : Stopper) : (w.stop who).stopAt = w.stopAt := by
  unfold stop
  split <;> rfl

end Trace

/-! ## Abreast -/

/-- Two worlds are abreast: there is the same to see of both, but for some lines that one of them has
more, and what stops the run is as far away in both. -/
structure Abreast (own : Report → Prop) (w w' : World σ) : Prop where
  now_eq : w'.now = w.now
  stopped_eq : w'.isStopped = w.isStopped
  stopAt_eq : w'.stopAt = w.stopAt
  /-- The owner does not come late. -/
  pending : w.isStopped = false → ∀ t, w.stopAt = some t → w.now < t
  trace_eq : w'.trace = { w.trace with reports := w'.trace.reports }
  reports : Padded own w.trace.reports w'.trace.reports

namespace Abreast

theorem outside_eq (h : w.Abreast own w') : w'.outside = w.outside :=
  congrArg Trace.outside h.trace_eq

theorem calendar_eq (h : w.Abreast own w') : w'.calendar = w.calendar :=
  congrArg Trace.calendar h.trace_eq

/-- What changes nothing there is to see leaves worlds abreast, if the time goes on alike. -/
theorem of_trace (h : w.Abreast own w') (hv : v.trace = w.trace) (hv' : v'.trace = w'.trace)
    (hnow : v'.now = v.now) (hstopped : v'.isStopped = v.isStopped) (hstopAt : v'.stopAt = v.stopAt)
    (hpending : v.isStopped = false → ∀ t, v.stopAt = some t → v.now < t) : v.Abreast own v' :=
  ⟨hnow, hstopped, hstopAt, hpending, by rw [hv, hv']; exact h.trace_eq,
    by rw [hv, hv']; exact h.reports⟩

theorem tell (h : w.Abreast own w') {n n' : Notice} (hn : n'.report? = n.report?) :
    (w.tell n).Abreast own (w'.tell n') := by
  refine ⟨h.now_eq, h.stopped_eq, h.stopAt_eq, h.pending, ?_, ?_⟩
  · rw [trace_tell, trace_tell, h.trace_eq]
  · rw [trace_tell, trace_tell, hn]
    exact (Padded.refl own _).append h.reports

/-- Something may be noticed in one world alone if it does not show, or as a line of its own. -/
theorem tell_left (h : w.Abreast own w') {n : Notice} (hn : ∀ r, n.report? = some r → own r) :
    (w.tell n).Abreast own w' := by
  refine ⟨h.now_eq, h.stopped_eq, h.stopAt_eq, h.pending, ?_, ?_⟩
  · rw [trace_tell]
    exact h.trace_eq
  · rw [trace_tell]
    cases hshown : n.report? with
    | none => exact h.reports
    | some r => exact .left (hn r hshown) h.reports

theorem noteCall (h : w.Abreast own w') (a : Action) :
    (w.noteCall a).Abreast own (w'.noteCall a) := by
  have hsame (w : World σ) : (w.noteCall a).now = w.now ∧ (w.noteCall a).isStopped = w.isStopped ∧
      (w.noteCall a).stopAt = w.stopAt := by
    cases a <;> exact ⟨rfl, rfl, rfl⟩
  obtain ⟨hnow, hstopped, hstopAt⟩ := hsame w
  obtain ⟨hnow', hstopped', hstopAt'⟩ := hsame w'
  refine ⟨?_, ?_, ?_, ?_, ?_, ?_⟩
  · rw [hnow, hnow', h.now_eq]
  · rw [hstopped, hstopped', h.stopped_eq]
  · rw [hstopAt, hstopAt', h.stopAt_eq]
  · rw [hnow, hstopped, hstopAt]
    exact h.pending
  · rw [trace_noteCall, trace_noteCall, h.trace_eq]
  · rw [trace_noteCall, trace_noteCall]
    exact h.reports

theorem withOutside (h : w.Abreast own w') (s : σ) :
    (w.withOutside s).Abreast own (w'.withOutside s) := by
  refine ⟨h.now_eq, h.stopped_eq, h.stopAt_eq, h.pending, ?_, h.reports⟩
  rw [trace_withOutside, trace_withOutside, h.trace_eq]

theorem pulse (h : w.Abreast own w') : w.pulse.Abreast own w'.pulse :=
  h.of_trace (trace_pulse w) (trace_pulse w') h.now_eq h.stopped_eq h.stopAt_eq h.pending

/-- Progress is not seen. -/
theorem pulse_left (h : w.Abreast own w') : w.pulse.Abreast own w' :=
  h.of_trace (trace_pulse w) rfl h.now_eq h.stopped_eq h.stopAt_eq h.pending

theorem extend (h : w.Abreast own w') (d : Duration) :
    (w.extend d).Abreast own (w'.extend d) :=
  h.of_trace (trace_extend w d) (trace_extend w' d) h.now_eq h.stopped_eq h.stopAt_eq h.pending

theorem stop (h : w.Abreast own w') (who : Stopper) :
    (w.stop who).Abreast own (w'.stop who) := by
  refine h.of_trace (trace_stop w who) (trace_stop w' who) ?_ ?_ ?_ fun hgoes => ?_
  · rw [now_stop, now_stop, h.now_eq]
  · rw [isStopped_stop, isStopped_stop]
  · rw [stopAt_stop, stopAt_stop, h.stopAt_eq]
  · rw [isStopped_stop] at hgoes
    cases hgoes

/-- A point of time comes at which the owner has not come yet. -/
theorem reach (h : w.Abreast own w') {due : Duration} (first first' : Bool)
    (hdue : w.isStopped = false → ∀ t, w.stopAt = some t → due < t) :
    (w.reach due first).Abreast own (w'.reach due first') := by
  refine h.of_trace (trace_reach w _ _) (trace_reach w' _ _) ?_ ?_ ?_ ?_
  · rw [now_reach, now_reach]
  · rw [isStopped_reach, isStopped_reach, h.stopped_eq]
  · rw [stopAt_reach, stopAt_reach, h.stopAt_eq]
  · rw [isStopped_reach, stopAt_reach, now_reach]
    exact hdue

/-- A wait that takes no time is not seen. -/
theorem reach_left (h : w.Abreast own w') (first : Bool) :
    (w.reach w.now first).Abreast own w' := by
  refine h.of_trace (trace_reach w _ _) rfl ?_ ?_ ?_ ?_
  · rw [now_reach, h.now_eq]
  · rw [isStopped_reach, h.stopped_eq]
  · rw [stopAt_reach, h.stopAt_eq]
  · rw [isStopped_reach, stopAt_reach, now_reach]
    exact h.pending

/-- The owner comes and stops the run. -/
theorem sound (h : w.Abreast own w') (t : Duration) :
    (w.sound (.owner t)).Abreast own (w'.sound (.owner t)) := by
  refine h.of_trace (trace_sound_owner w t) (trace_sound_owner w' t) ?_ ?_ rfl fun hgoes => ?_
  · rw [now_sound, now_sound, h.now_eq]
  · rw [isStopped_sound, isStopped_sound]
  · rw [isStopped_sound] at hgoes
    cases hgoes

end Abreast

/-! ## Waits -/

/-- A watchdog that trips stops a run that has not been stopped before. -/
theorem not_untripped_sound (hgoes : w.isStopped = false) (t : Duration) :
    ¬ (w.sound (.trip t)).Untripped := by
  obtain ⟨tick, htick⟩ := exists_nextTick hgoes
  have hstays : (w.lookUntil t).isStopped = false := by
    unfold lookUntil isStopped
    rw [htick]
    dsimp only
    split
    · rfl
    · rw [htick]; rfl
  have hstop (u : World σ) (hu : u.isStopped = false) :
      .mark (.stopped .watchdog u.now) ∈ (u.stop .watchdog).history := by
    rw [stop, if_neg (by simp [hu])]
    exact .head _
  exact fun hun => hun (max w.now t) (.tail _ (hstop (withWatchdog _ (atTime _ _)) hstays))

/-- A run that the watchdog does not stop while it waits is stopped by the owner, or its time comes. -/
theorem await_eq (hgoes : w.isStopped = false) {due : Option Duration}
    (hun : (w.await (.untilStop none) due).2.Untripped) :
    w.await (.untilStop none) due = (w.stopAt.filter fun t => comesBefore t true due).elim
      (w.arrive (.untilStop none) due due) fun t => (some .cancelled, w.sound (.owner t)) := by
  have hdue : earlier due none = due := by cases due <;> rfl
  have hawait : w.await (.untilStop none) due =
      (w.alarm? due (w.tickFirst (.untilStop none) due due)).elim
        (w.arrive (.untilStop none) due due) fun alarm => (some .cancelled, w.sound alarm) := by
    unfold await
    rw [if_neg (by simp [Guard.limit?]), if_neg (by simp [hgoes])]
    dsimp only [Guard.limit?, Option.map_none]
    rw [hdue]
    cases w.alarm? due (w.tickFirst (.untilStop none) due due) <;> rfl
  rw [hawait] at hun ⊢
  generalize w.tickFirst (.untilStop none) due due = first at hun ⊢
  unfold alarm? at hun ⊢
  dsimp only at hun ⊢
  cases hk : (w.nextTick.map w.firstTrip).filter fun t => comesBefore t first due with
  | none =>
    rw [hk] at hun
    cases hs : w.stopAt.filter fun t => comesBefore t true due <;> rfl
  | some k =>
    rw [hk] at hun
    cases hs : w.stopAt.filter fun t => comesBefore t true due with
    | none =>
      rw [hs] at hun
      exact absurd hun (not_untripped_sound hgoes k)
    | some s =>
      rw [hs] at hun
      dsimp only at hun ⊢
      split at hun
      · rw [if_pos ‹_›]
        rfl
      · exact absurd hun (not_untripped_sound hgoes k)

/-- Answers in two worlds, with the worlds that they come with, go together unless the watchdog has
tripped in one of these: the answers are the same, and the worlds are abreast. -/
def Together (own : Report → Prop) (r r' : α × World σ) : Prop :=
  r.2.Untripped → r'.2.Untripped → r'.1 = r.1 ∧ r.2.Abreast own r'.2

theorem Together.bind {r r' : α × World σ} {f : α → World σ → β × World σ} (h : Together own r r')
    (hlater : ∀ (a : α) (v : World σ), v.Later (f a v).2)
    (hf : ∀ (a : α) (v v' : World σ), v.Abreast own v' → Together own (f a v) (f a v')) :
    Together own (f r.1 r.2) (f r'.1 r'.2) := by
  intro hun hun'
  obtain ⟨heq, habreast⟩ := h (hun.before (hlater _ _)) (hun'.before (hlater _ _))
  rw [heq] at hun' ⊢
  exact hf _ _ _ habreast hun hun'

namespace Abreast

theorem await (h : w.Abreast own w') {due : Option Duration} :
    Together own (w.await (.untilStop none) due) (w'.await (.untilStop none) due) := by
  intro hun hun'
  cases hgoes : w.isStopped with
  | true =>
    have hcut (u : World σ) (hu : u.isStopped = true) :
        u.await (.untilStop none) due = (some .cancelled, u) := by
      rw [World.await, if_neg (by simp [Guard.limit?]), if_pos (by simp [hu, Guard.heedsStop])]
    rw [hcut w hgoes, hcut w' (h.stopped_eq.trans hgoes)]
    exact ⟨rfl, h⟩
  | false =>
    rw [await_eq hgoes hun, await_eq (h.stopped_eq.trans hgoes) hun', h.stopAt_eq]
    cases hs : w.stopAt.filter fun t => comesBefore t true due with
    | some t => exact ⟨rfl, h.sound t⟩
    | none =>
      cases due with
      | none => exact ⟨rfl, h⟩
      | some t =>
        refine ⟨rfl, h.reach _ _ fun _ s hs' => ?_⟩
        rw [hs', Option.filter_eq_none_iff] at hs
        have hlate := hs s rfl
        exact (comesBefore_false (Bool.eq_false_iff.2 hlate)).2 rfl

theorem sleep (h : w.Abreast own w') (d : Duration) :
    Together own (w.sleep (.untilStop none) d) (w'.sleep (.untilStop none) d) := by
  unfold World.sleep
  rw [h.now_eq]
  split
  · exact fun _ _ => ⟨rfl, h⟩
  · exact h.await

theorem hang (h : w.Abreast own w') :
    Together own (w.hang (.untilStop none)) (w'.hang (.untilStop none)) := by
  intro hun hun'
  obtain ⟨hcut, habreast⟩ := h.await hun hun'
  exact ⟨congrArg (Option.getD · Cut.cancelled) hcut, habreast⟩

/-! ## What an action lives through -/

theorem live (h : w.Abreast own w') (beats : List Beat) :
    Together own (w.live (.untilStop none) beats) (w'.live (.untilStop none) beats) := by
  induction beats generalizing w w' with
  | nil => exact fun _ _ => ⟨rfl, h⟩
  | cons beat beats ih =>
    let next (cut : Option Cut) (v : World σ) : Option Cut × World σ :=
      cut.elim (v.live (.untilStop none) beats) fun cut => (some cut, v)
    have hlater (cut : Option Cut) (v : World σ) : v.Later (next cut v).2 := by
      cases cut with
      | none => exact (elapses_live _ _ v).later
      | some _ => exact .refl v
    have hnext (cut : Option Cut) (v v' : World σ) (hv : v.Abreast own v') :
        Together own (next cut v) (next cut v') := by
      cases cut with
      | none => exact ih hv
      | some _ => exact fun _ _ => ⟨rfl, hv⟩
    cases beat with
    | rest d =>
      have hrest (u : World σ) : u.live (.untilStop none) (.rest d :: beats) =
          next (u.sleep (.untilStop none) d).1 (u.sleep (.untilStop none) d).2 := by
        rw [World.live]
        rcases u.sleep (.untilStop none) d with ⟨_ | cut, v⟩ <;> rfl
      rw [hrest, hrest]
      exact (h.sleep d).bind hlater hnext
    | giveWay =>
      have hway (u : World σ) : u.live (.untilStop none) (.giveWay :: beats) =
          next (u.await (.untilStop none) (some u.now)).1
            (u.await (.untilStop none) (some u.now)).2 := by
        rw [World.live]
        rcases u.await (.untilStop none) (some u.now) with ⟨_ | cut, v⟩ <;> rfl
      rw [hway, hway, h.now_eq]
      exact h.await.bind hlater hnext
    | stop => exact ih (h.stop .outside)
    | note r => exact ih (h.tell rfl)

/-- What takes no time and stops nothing may happen in one world alone. -/
theorem live_left (h : w.Abreast own w') (hgoes : w.isStopped = false) {beats : List Beat}
    (hidle : ∀ beat ∈ beats, beat.Idle) (hun : (w.live (.untilStop none) beats).2.Untripped) :
    ∃ v, w.live (.untilStop none) beats = (none, v) ∧ v.isStopped = false ∧ v.Abreast own w' := by
  induction beats generalizing w with
  | nil => exact ⟨w, rfl, hgoes, h⟩
  | cons beat beats ih =>
    obtain ⟨hbeat, hrest⟩ := List.forall_mem_cons.1 hidle
    cases beat with
    | rest _ | stop => cases hbeat
    | note r => exact ih (h.tell_left fun _ heq => by cases heq) hgoes hrest hun
    | giveWay =>
      rw [World.live] at hun ⊢
      have hawait : (w.await (.untilStop none) (some w.now)).2.Untripped := by
        rcases hres : w.await (.untilStop none) (some w.now) with ⟨_ | cut, v⟩ <;> rw [hres] at hun
        · exact hun.before (elapses_live _ _ v).later
        · exact hun
      -- the owner is yet to come, so the wait ends where it has begun
      have hnone : (w.stopAt.filter fun t => comesBefore t true (some w.now)) = none := by
        refine Option.filter_eq_none_iff.2 fun t ht hbefore => ?_
        exact Nat.lt_irrefl _ (Nat.lt_of_lt_of_le (h.pending hgoes t ht) (comesBefore_true hbefore))
      have heq : w.await (.untilStop none) (some w.now) = (none,
          w.reach w.now (w.tickFirst (.untilStop none) (some w.now) (some w.now))) := by
        rw [await_eq hgoes hawait, hnone]
        simp [arrive]
      rw [heq] at hun ⊢
      exact ih (h.reach_left _) ((isStopped_reach w _ _).trans hgoes) hrest hun

/-! ## Steps -/

theorem act (h : w.Abreast own w') (a : Action) :
    Together own (w.act o (.untilStop none) a) (w'.act o (.untilStop none) a) := by
  let conduct := o a w.outside
  let next (cut : Option Cut) (v : World σ) : Except Cut a.Answer × World σ :=
    cut.elim (conduct.ending.elim (.error (v.hang (.untilStop none)).1, (v.hang (.untilStop none)).2)
      fun answered => (.ok answered.1, v.withOutside answered.2)) fun cut => (.error cut, v)
  have hact (u : World σ) (hu : u.outside = w.outside) : u.act o (.untilStop none) a =
      next (((u.noteCall a).withOutside conduct.start).live (.untilStop none) conduct.beats).1
        (((u.noteCall a).withOutside conduct.start).live (.untilStop none) conduct.beats).2 := by
    unfold World.act
    rw [hu]
    dsimp only [next, conduct]
    rcases World.live _ _ _ with ⟨_ | cut, v⟩
    · rcases (o a w.outside).ending with _ | answered <;> rfl
    · rfl
  rw [hact w rfl, hact w' h.outside_eq]
  refine ((h.noteCall a).withOutside conduct.start).live conduct.beats |>.bind ?_ ?_
  · intro cut v
    rcases cut with _ | cut
    · dsimp only [next, Option.elim]
      rcases conduct.ending with _ | answered
      · exact (elapses_hang (.untilStop none) v).later
      · exact ⟨List.suffix_rfl, id, Nat.le_refl _⟩
    · exact .refl v
  · intro cut v v' hv
    rcases cut with _ | cut
    · dsimp only [next, Option.elim]
      rcases conduct.ending with _ | answered
      · intro hun hun'
        obtain ⟨heq, hhung⟩ := hv.hang hun hun'
        exact ⟨congrArg Except.error heq, hhung⟩
      · exact fun _ _ => ⟨rfl, hv.withOutside _⟩
    · exact fun _ _ => ⟨rfl, hv⟩

/-- A script may be loaded in one world alone if it is there at once. -/
theorem load_left (h : w.Abreast own w') (hgoes : w.isStopped = false) {path : String}
    {x : Except Error (List Event)} (hload : (o (.loadScript path) w.outside).AtOnce w.outside x)
    (hun : (w.act o (.untilStop none) (.loadScript path)).2.Untripped) :
    ∃ v, w.act o (.untilStop none) (.loadScript path) = (.ok x, v) ∧ v.isStopped = false ∧
      v.Abreast own w' := by
  have hbegun : (w.noteCall (.loadScript path)).withOutside (o (.loadScript path) w.outside).start =
      w := by
    rw [hload.start_eq]
    rfl
  rcases hres : w.live (.untilStop none) (o (.loadScript path) w.outside).beats with ⟨cut, v⟩
  have hact : w.act o (.untilStop none) (.loadScript path) =
      cut.elim (.ok x, v.withOutside w.outside) fun cut => (.error cut, v) := by
    unfold World.act
    dsimp only
    rw [hbegun, hres, hload.ending]
    cases cut <;> rfl
  have hlived : (w.live (.untilStop none) (o (.loadScript path) w.outside).beats).2.Untripped := by
    rw [hact] at hun
    rw [hres]
    cases cut <;> exact hun
  obtain ⟨v', hlive, hgoes', habreast⟩ := h.live_left hgoes hload.idle hlived
  obtain ⟨rfl, rfl⟩ := Prod.mk.inj (hres.symm.trans hlive)
  -- the other world tells that the outside is as it was
  have hkept : v.withOutside w.outside = v := by
    rw [← h.outside_eq, habreast.outside_eq]
    rfl
  rw [hact, hkept]
  exact ⟨v, rfl, hgoes', habreast⟩

theorem step (h : w.Abreast own w') (s : Step) :
    Together own (w.step o (.untilStop none) s) (w'.step o (.untilStop none) s) := by
  cases s with
  | act a => exact h.act a
  | sleep d =>
    let next (cut : Option Cut) (v : World σ) : Except Cut Unit × World σ :=
      (cut.elim (.ok ()) .error, v)
    have hsleep (u : World σ) : u.step o (.untilStop none) (.sleep d) =
        next (u.sleep (.untilStop none) d).1 (u.sleep (.untilStop none) d).2 := by
      unfold World.step
      dsimp only [next]
      rcases u.sleep (.untilStop none) d with ⟨_ | cut, v⟩ <;> rfl
    rw [hsleep, hsleep]
    exact (h.sleep d).bind (fun _ v => .refl v) fun _ _ _ hv _ _ => ⟨rfl, hv⟩
  | forever =>
    intro hun hun'
    obtain ⟨heq, hhung⟩ := h.hang hun hun'
    exact ⟨congrArg Except.error heq, hhung⟩

/-! ## Workers -/

/-- What is asked for alike in both worlds is answered alike. -/
theorem answer (h : w.Abreast own w') {r r' : Request} {A : r.Answer → r'.Answer → Prop}
    (hr : r.Akin Eq r' A) (hplain : r.Plain) {x : r.Answer} {x' : r'.Answer}
    (hx : w.answer o r = some (x, v)) (hx' : w'.answer o r' = some (x', v')) (hun : v.Untripped)
    (hun' : v'.Untripped) : A x x' ∧ v.Abreast own v' := by
  have hstep {s : Step} {x x' : Except Cut s.Answer}
      (hx : some (w.step o (.untilStop none) s) = some (x, v))
      (hx' : some (w'.step o (.untilStop none) s) = some (x', v')) : x' = x ∧ v.Abreast own v' := by
    have hsteps := h.step (o := o) s
    rw [Option.some.inj hx, Option.some.inj hx'] at hsteps
    exact hsteps hun hun'
  cases hr with
  | say hr =>
    cases hx
    cases hx'
    rw [hr.eq]
    exact ⟨rfl, h.tell rfl⟩
  | tell hs =>
    cases hx
    cases hx'
    exact ⟨rfl, h.tell hs⟩
  | call g hc =>
    obtain rfl := hplain
    obtain ⟨rfl, hA⟩ := hc.eq
    obtain ⟨rfl, hv⟩ := hstep hx hx'
    exact ⟨Agrees.refl (Agrees.refl fun y => hA y y HEq.rfl) _, hv⟩
  | process g p p' he hne => exact absurd he hne
  | inner hinner =>
    cases r with
    | step g s =>
      obtain rfl := hplain
      obtain ⟨heq, hv⟩ := hstep hx hx'
      exact ⟨heq.symm, hv⟩
    | say r => cases hx; cases hx'; exact ⟨rfl, h.tell rfl⟩
    | tell s => cases hx; cases hx'; exact ⟨rfl, h.tell rfl⟩
    | isStopped => cases hx; cases hx'; exact ⟨h.stopped_eq.symm, h⟩
    | pulse => cases hx; cases hx'; exact ⟨rfl, h.pulse⟩
    | extend d => cases hx; cases hx'; exact ⟨rfl, h.extend d⟩
    | now => cases hx; cases hx'; exact ⟨h.now_eq.symm, h⟩
    | calendar => cases hx; cases hx'; exact ⟨h.calendar_eq.symm, h⟩
    | stop _ | limit _ | tooDeep => cases hplain

/-- **Plain workers that are paired run abreast**, as long as the watchdog trips in neither world. -/
theorem run {Q : α → Prop} {R : α → β → Prop} {p : Worker α} {p' : Worker β} {a : α} {b : β}
    (hp : Worker.Paired Eq R p p') (hplain : Worker.Plain Q p) (h : w.Abreast own w')
    (hrun : World.run o p w = some (a, v)) (hrun' : World.run o p' w' = some (b, v'))
    (hun : v.Untripped) (hun' : v'.Untripped) : Q a ∧ R a b ∧ v.Abreast own v' := by
  induction hp generalizing w w' with
  | done hab =>
    cases hplain with
    | done ha =>
      cases hrun
      cases hrun'
      exact ⟨ha, hab, h⟩
  | ask hr _ ih =>
    cases hplain with
    | ask hrplain hnext =>
      rw [run_ask] at hrun hrun'
      obtain ⟨⟨x, w₁⟩, hx, hrest⟩ := Option.bind_eq_some_iff.1 hrun
      obtain ⟨⟨x', w₁'⟩, hx', hrest'⟩ := Option.bind_eq_some_iff.1 hrun'
      obtain ⟨hxx', h₁⟩ := h.answer hr hrplain hx hx'
        (hun.before (leads_later _ _ _ hrest)) (hun'.before (leads_later _ _ _ hrest'))
      exact ih x x' hxx' (hnext x) h₁ hrest hrest'

end Abreast
end World

/-! ## Parts of runs -/

theorem Session.akin_self {s : Session} (hregistry : s.registry = []) : s.Akin Eq s where
  stored := List.forall₂_same.2 fun _ _ => ⟨rfl, rfl⟩
  rest := rfl
  plugins r hmem := by
    rw [hregistry] at hmem
    cases hmem

theorem Session.Akin.eq {s s' : Session} (h : s.Akin Eq s') : s' = s := by
  have hstored : s'.stored = s.stored := by
    refine (List.forall₂_eq_eq_eq ▸ h.stored.imp fun p p' hp => ?_).symm
    exact Prod.ext hp.1.symm hp.2
  rw [h.rest, hstored]

/-- Two points of runs without plugins are abreast: the same is remembered, and the worlds are
abreast. -/
structure Moment.Abreast (own : Report → Prop) (m m' : Moment σ) : Prop where
  session_eq : m'.session = m.session
  registry : m.session.registry = []
  world : m.world.Abreast own m'.world

/-- Plain parts of runs that are twins come to the same, and to points that are abreast. -/
theorem Stretch.Comes.abreast {o : Outside σ} {own : Report → Prop} {p : Stretch α} {p' : Stretch β}
    {R : α → β → Prop} {m m' m₁ m₁' : Moment σ} {a : α} {b : β} (htwins : Twins Eq p p' R)
    (hplain : Plain p) (h : m.Abreast own m') (hcomes : Comes o p m a m₁)
    (hcomes' : Comes o p' m' b m₁') (hun : m₁.world.Untripped) (hun' : m₁'.world.Untripped) :
    R a b ∧ m₁.Abreast own m₁' := by
  have hpaired := htwins _ _ (Session.akin_self h.registry)
  rw [Comes, h.session_eq] at hcomes'
  obtain ⟨hregistry, ⟨hab, hakin⟩, hworld⟩ :=
    World.Abreast.run hpaired (hplain _ h.registry) h.world hcomes hcomes' hun hun'
  exact ⟨hab, hakin.eq, hregistry, hworld⟩

end PageScript
