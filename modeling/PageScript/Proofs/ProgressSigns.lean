import PageScript.Proofs.HistoryAdditions
import PageScript.Proofs.Course
import PageScript.Proofs.WatchdogLooks
import PageScript.Proofs.TraversalInvariants

/-!
# Signs of progress

The watchdog is told of progress at the very start of a run, and at the start and the end of each
event, and nowhere else. It is told to allow more time only by an event that waits or that looks for
a window, once, before the wait or the search begins. `Paced` is the grammar of the histories of
which this is true, and every run keeps to it.
-/

namespace PageScript

/-- The event that is being carried out: the one that has started last, if it has not been carried
out yet. -/
def underHand : List Happening → Option Event
  | [] => none
  | .stage (.started event _) :: _ => some event
  | .stage (.carriedOut ..) :: _ => none
  | _ :: past => underHand past

/-- Whether an event tells the watchdog to allow more time. -/
def Kind.extends (k : Kind) : Prop := k = .command .wait ∨ k = .command .attach

/-- The event that is being carried out may have more time allowed for: for the first time, and
just what it is about to take. -/
def Extends (setup : Setup) (past : List Happening) (d : Duration) : Prop :=
  allowed? past = none ∧ ∃ event, underHand past = some event ∧
    ((event.kind = .command .wait ∧ ∃ secs, d = .ofSecs secs ∧ past.head? =
        some (.notice (.report (.log ("Waiting " ++ toString secs ++ " seconds."))))) ∨
      event.kind = .command .attach ∧ d = setup.attachPatience)

/-- Histories in which progress is told of as it should be. -/
inductive Paced (setup : Setup) : List Happening → Prop where
  /-- A run begins. -/
  | spawn : Paced setup [.mark (.pulsed 0)]
  /-- An event starts. -/
  | start {past : List Happening} (event : Event) (parent : Option Element) (t : Duration) :
      Paced setup past → Paced setup (.mark (.pulsed t) :: .stage (.started event parent) :: past)
  /-- An event finishes. -/
  | finish {past : List Happening} (event : Event) (element : Option Element) (t : Duration) :
      Paced setup past →
      Paced setup (.stage (.finished event element) :: .mark (.pulsed t) :: past)
  /-- More time is allowed. -/
  | extend {past : List Happening} {d : Duration} : Extends setup past d → Paced setup past →
      Paced setup (.mark (.extended d) :: past)
  /-- An event has been carried out; if it is one of those that take longer and has not failed, more
  time has been allowed for it. -/
  | carriedOut {past : List Happening} (event : Event) (result : Except Mishap Opened) :
      (event.kind.extends → ∀ opened, result = .ok opened → (allowed? past).isSome = true) →
      Paced setup past → Paced setup (.stage (.carriedOut event result) :: past)
  | failed {past : List Happening} (event : Event) (failure : Failure) : Paced setup past →
      Paced setup (.stage (.failed event failure) :: past)
  | row {past : List Happening} (cells : Row) : Paced setup past →
      Paced setup (.stage (.row cells) :: past)
  | aside {h : Happening} {past : List Happening} : h.Aside → Paced setup past →
      Paced setup (h :: past)
  | closing {h : Happening} {past : List Happening} : h.Closing → Paced setup past →
      Paced setup (h :: past)

section Histories

variable {setup : Setup} {C : Happening → Prop} {h : Happening} {past added : List Happening}

theorem underHand_aside (haside : h.Aside) : underHand (h :: past) = underHand past := by
  rw [underHand] <;> rintro _ _ rfl <;> rcases haside with hpassing | _ | ⟨-, hplugin⟩ <;>
    first | cases hpassing | cases hplugin

theorem allowed?_aside (haside : h.Aside) : allowed? (h :: past) = allowed? past := by
  rw [allowed?] <;> rintro _ rfl <;> rcases haside with hpassing | _ | ⟨-, hplugin⟩ <;>
    first | cases hpassing | cases hplugin

/-- More time is allowed at most once after a pulse. -/
theorem Paced.abides_onceLaw (h : Paced setup past) : Abides onceLaw past := by
  induction h with
  | spawn => simp [onceLaw]
  | start event parent t _ ih => exact abides_cons.2 ⟨trivial, abides_cons.2 ⟨trivial, ih⟩⟩
  | finish event element t _ ih => exact abides_cons.2 ⟨trivial, abides_cons.2 ⟨trivial, ih⟩⟩
  | extend hextends _ ih => exact abides_cons.2 ⟨hextends.1, ih⟩
  | carriedOut event result _ _ ih => exact abides_cons.2 ⟨trivial, ih⟩
  | failed event failure _ ih => exact abides_cons.2 ⟨trivial, ih⟩
  | row cells _ ih => exact abides_cons.2 ⟨trivial, ih⟩
  | @aside h past haside _ ih =>
    refine abides_cons.2 ⟨?_, ih⟩
    unfold onceLaw
    split
    · rcases haside with hpassing | _ | ⟨-, hplugin⟩ <;> first | cases hpassing | cases hplugin
    · trivial
  | @closing h past hclosing _ ih =>
    refine abides_cons.2 ⟨?_, ih⟩
    unfold onceLaw
    split
    · rcases hclosing with hpassing | _ | hplugin <;> first | cases hpassing | cases hplugin
    · trivial

/-- An event is being carried out, and so much time has been allowed for it. -/
structure Carrying (setup : Setup) (event : Event) (allowed : Option Duration)
    (past : List Happening) : Prop where
  paced : Paced setup past
  underHand_eq : underHand past = some event
  allowed_eq : allowed? past = allowed

theorem Carrying.aside {event : Event} {allowed : Option Duration} (haside : h.Aside)
    (hpast : Carrying setup event allowed past) : Carrying setup event allowed (h :: past) where
  paced := hpast.paced.aside haside
  underHand_eq := (underHand_aside haside).trans hpast.underHand_eq
  allowed_eq := (allowed?_aside haside).trans hpast.allowed_eq

/-- An event that has just started is being carried out, with no more time than usual. -/
theorem carrying_start (event : Event) (parent : Option Element) (t : Duration)
    (h : Paced setup past) :
    Carrying setup event none (.mark (.pulsed t) :: .stage (.started event parent) :: past) :=
  ⟨h.start event parent t, rfl, rfl⟩

/-- More time is allowed. -/
theorem Carrying.extend {event : Event} {d : Duration} (h : Carrying setup event none past)
    (hevent : (event.kind = .command .wait ∧ ∃ secs, d = .ofSecs secs ∧ past.head? =
        some (.notice (.report (.log ("Waiting " ++ toString secs ++ " seconds."))))) ∨
      event.kind = .command .attach ∧ d = setup.attachPatience) :
    Carrying setup event (some d) (.mark (.extended d) :: past) :=
  ⟨h.paced.extend ⟨h.allowed_eq, event, h.underHand_eq, hevent⟩, h.underHand_eq, rfl⟩

end Histories

/-! ## Events -/

section Events

variable {σ : Type} {o : Outside σ} {setup : Setup} {event : Event} {w : World σ} {s : Session}

theorem kept_carrying (o : Outside σ) (setup : Setup) (event : Event)
    (allowed : Option Duration) :
    Kept o fun w => Carrying setup event allowed w.history :=
  World.kept_of_asides fun _ _ haside h => h.aside haside

/-- What an event has come to: it is still the one that is carried out, and if it takes longer and
has not failed, more time has been allowed for it. -/
def Carried (setup : Setup) (event : Event) (r : Except Mishap Opened) (w : World σ) : Prop :=
  ∃ allowed, Carrying setup event allowed w.history ∧
    (event.kind.extends → ∀ opened, r = .ok opened → allowed.isSome = true)

/-- Right before a wait the event says how long it is. -/
theorem announced_wait (setup : Setup) (event : Event) :
    Stretch.Leads o (Passage.act setup (Act.announceWait setup event)).run s w fun r _ w' =>
      ∀ secs, r = .ok secs → w'.history.head? =
        some (.notice (.report (.log ("Waiting " ++ toString secs ++ " seconds.")))) := by
  rw [Passage.act, Stretch.leads_run_mk, Act.announceWait, Stretch.leads_play_bind]
  intro p w' _
  rcases p with ⟨failure | secs, s'⟩
  · exact fun _ heq => by cases heq
  · dsimp only
    rw [Stretch.leads_play_bind, Act.log, Stretch.leads_play_say]
    refine Stretch.leads_play_pure secs |>.2 fun _ heq => ?_
    cases heq
    rfl

theorem carried_wait (hkind : event.kind = .command .wait)
    (h : Carrying setup event none w.history) :
    Stretch.Leads o (Passage.wait setup event).run s w fun r _ w' => Carried setup event r w' := by
  rw [Passage.wait, Stretch.leads_run_bind]
  refine (((kept_carrying o setup event none).act _ h).and (announced_wait setup event)).mono ?_
  rintro r s' w' ⟨h', hannounced⟩
  cases r with
  | error failure => exact ⟨none, h', fun _ _ heq => by cases heq⟩
  | ok secs =>
    dsimp only
    rw [Stretch.leads_run_bind, Stretch.leads_passage_extend]
    refine ((kept_carrying o setup event (some (.ofSecs secs))).plainly _
      (h'.extend (.inl ⟨hkind, secs, rfl, hannounced secs rfl⟩))).mono fun _ _ _ h'' => ?_
    exact ⟨_, h'', fun _ _ _ => rfl⟩

theorem carried_attach (hkind : event.kind = .command .attach)
    (h : Carrying setup event none w.history) :
    Stretch.Leads o (Passage.attach setup event).run s w
      fun r _ w' => Carried setup event r w' := by
  rw [Passage.attach, Stretch.leads_run_bind]
  refine ((kept_carrying o setup event none).act _ h).mono fun r s' w' h' => ?_
  cases r with
  | error failure => exact ⟨none, h', fun _ _ heq => by cases heq⟩
  | ok q =>
    dsimp only
    rw [Stretch.leads_run_bind, Stretch.leads_passage_extend]
    refine ((kept_carrying o setup event (some setup.attachPatience)).act_bind _ _
      (fun _ _ _ h'' => Stretch.leads_run_pure _ |>.2 h'')
      (h'.extend (.inr ⟨hkind, rfl⟩))).mono fun _ _ _ h'' => ?_
    exact ⟨_, h'', fun _ _ _ => rfl⟩

theorem carried_carryOut (parent : Option Element) (h : Carrying setup event none w.history) :
    Stretch.Leads o (Passage.carryOut setup event parent).run s w
      fun r _ w' => Carried setup event r w' := by
  -- more time is allowed by two kinds of events, and by any other none at all
  by_cases hextends : event.kind.extends
  · rcases hextends with hkind | hkind
    · rw [Passage.carryOut, hkind]
      exact carried_wait hkind h
    · rw [Passage.carryOut, hkind]
      exact carried_attach hkind h
  · refine ((kept_carrying o setup event none).carryOut (fun hk => absurd hk hextends)
      parent h).mono fun r s' w' h' => ?_
    exact ⟨none, h', fun hk => absurd hk hextends⟩

theorem sustained_paced (setup : Setup) (o : Outside σ) :
    Sustained setup o fun w => Paced setup w.history where
  toKept := World.kept_of_asides fun _ _ haside h => h.aside haside
  starts event parent _ h := by
    rw [Passage.openEvent, Stretch.leads_run_bind, Stretch.leads_run_lift]
    refine (carried_carryOut parent (carrying_start event parent _ h)).mono ?_
    rintro r s' w' ⟨allowed, hcarrying, hallowed⟩
    dsimp only
    rw [Stretch.leads_run_bind, Stretch.leads_passage_tell]
    refine Stretch.leads_pure r |>.2 ?_
    exact hcarrying.paced.carriedOut event r fun hk opened heq =>
      hcarrying.allowed_eq ▸ hallowed hk opened heq
  fails event failure h := h.failed event failure
  finishes event element h := h.finish event element _
  rows cells _ h := h.row cells

/-- **Every run tells of its progress as it should.** -/
theorem paced_of_run {calendar : Calendar} {stopAt : Option Duration} {events : List Event}
    {outside : σ} {ended : Ended σ}
    (hrun : setup.run o calendar stopAt events outside = some ended) :
    Paced setup ended.world.history := by
  obtain ⟨course⟩ := exists_course hrun
  have hopened : Paced setup (World.opened setup calendar stopAt events outside).history :=
    (adds_opened setup calendar stopAt events outside).keeps
      (fun _ _ hp => .closing (.passing hp)) .spawn
  have hbefore := (sustained_paced setup o).main events hopened _ _ course.run_main
  have hafter := course.adds_plugins.keeps (fun _ _ hc => .closing hc) hbefore
  exact course.adds_end.keeps (fun _ _ hp => .closing (.passing hp)) hafter

end Events

end PageScript
