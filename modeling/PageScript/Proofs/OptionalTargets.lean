import PageScript.Proofs.FailureReports
import PageScript.Proofs.ActPlans

/-!
# Targets that are not required

An event whose target is not required takes it lightly if the target is missing or hidden. Whichever
call finds this out, the event makes no other one: it is over, nothing that belongs to it is run, and
all that is told are log lines. A frame is the exception: where the browser knows no such frame, an
error is told, whether the frame is required or not.

What an event calls itself is read off its program, move by move, so that the calls of plugins around a
click do not count.
-/

namespace PageScript

variable {σ α β : Type} {o : Outside σ} {setup : Setup} {event : Event} {m m' : Moment σ}
  {w : World σ}

/-! ## Calls that an act makes itself -/

/-- What has been called by a move, if it is a call of the browser, and what has been answered. -/
def Move.exchange? : (move : Move) → move.Answer → Option Exchange
  | .step (.act (.call c)), .ok x => some ⟨c, some x⟩
  | .step (.act (.call c)), .error _ => some ⟨c, none⟩
  | _, _ => none

/-- A call is answered, or the run has been stopped. -/
theorem Move.called_or_stopped {c : Call} {x : Except Cut (Except BrowserError c.Answer)}
    (h : Stretch.Comes o (Move.play setup (.step (.act (.call c)))) m x m') :
    (∃ y, x = .ok y ∧ m.world.Called o c y m'.world) ∨
      (∃ cut, x = .error cut) ∧ m'.world.isStopped = true := by
  refine h.of_leads (Q := fun x _ w' => (∃ y, x = .ok y ∧ m.world.Called o c y w') ∨
    (∃ cut, x = .error cut) ∧ w'.isStopped = true) ?_
  refine Stretch.leads_ofWorker _ |>.2 ?_
  rw [World.leads_guarded]
  split
  · rename_i hstop
    exact .inr ⟨⟨_, rfl⟩, (Bool.and_eq_true_iff.1 hstop).2⟩
  · rcases hres : m.world.step o (.untilStop none) (.act (.call c)) with ⟨cut | y, w'⟩
    · exact .inr ⟨⟨cut, rfl⟩, World.isStopped_of_cut hres⟩
    · exact .inl ⟨y, rfl, World.called_of_step hres⟩

/-- A program of moves is played to its end; these are the calls that it makes itself. -/
inductive Played (setup : Setup) (o : Outside σ) : Program Move Move.Answer α → Moment σ →
    List Exchange → α → Moment σ → Prop where
  | done (a : α) (m : Moment σ) : Played setup o (.done a) m [] a m
  | ask {move : Move} {next : move.Answer → Program Move Move.Answer α} {m m₁ m' : Moment σ}
      {x : move.Answer} {log : List Exchange} {a : α} : Stretch.Comes o (move.play setup) m x m₁ →
      Played setup o (next x) m₁ log a m' →
      Played setup o (.ask move next) m ((move.exchange? x).toList ++ log) a m'

namespace Played

variable {p : Program Move Move.Answer α} {a : α} {log : List Exchange}

theorem later (h : Played setup o p m log a m') : m.world.Later m'.world := by
  induction h with
  | done a m => exact .refl _
  | ask hmove _ ih => exact hmove.later.trans ih

/-- The history tells of what a program calls itself, in this order. -/
theorem exists_calls (h : Played setup o p m log a m') (hgoes : m'.world.isStopped = false) :
    ∃ made, calls m'.world.history = calls m.world.history ++ made ∧
      (log.map (·.call)).Sublist made := by
  induction h with
  | done a m => exact ⟨[], (List.append_nil _).symm, List.Sublist.refl _⟩
  | @ask move next m m₁ m' x log a hmove hrest ih =>
    obtain ⟨later, hlater, hsublist⟩ := ih hgoes
    obtain ⟨first, hfirst, hcalled⟩ : ∃ first, calls m₁.world.history =
        calls m.world.history ++ first ∧ ((move.exchange? x).toList.map (·.call)).Sublist first := by
      by_cases hcall : ∃ c, move = .step (.act (.call c))
      · obtain ⟨c, rfl⟩ := hcall
        obtain ⟨y, rfl, hcalled⟩ | ⟨-, hstop⟩ := Move.called_or_stopped hmove
        · exact ⟨[c], hcalled.calls_eq, List.Sublist.refl _⟩
        · rw [hrest.later.goes hgoes] at hstop
          cases hstop
      · -- any other move is no call of the program itself
        have hnone : move.exchange? x = none := by
          unfold Move.exchange?
          split
          · exact absurd ⟨_, rfl⟩ hcall
          · exact absurd ⟨_, rfl⟩ hcall
          · rfl
        obtain ⟨first, hfirst⟩ := hmove.later.exists_calls
        rw [hnone]
        exact ⟨first, hfirst, List.nil_sublist _⟩
    refine ⟨first ++ later, by rw [hlater, hfirst, List.append_assoc], ?_⟩
    rw [List.map_append]
    exact hcalled.append hsublist

/-- Whatever is carried out is played. -/
theorem exists_of_comes (h : Stretch.Comes o (p.handle (Move.play setup)) m a m') :
    ∃ log, Played setup o p m log a m' := by
  induction p generalizing m with
  | done b =>
    obtain ⟨rfl, rfl⟩ : a = b ∧ m' = m := Stretch.Comes.unique (p := pure b) rfl h
    exact ⟨[], .done a m'⟩
  | ask move next ih =>
    have hnext : ∃ x m₁, Stretch.Comes o (move.play setup) m x m₁ ∧
        Stretch.Comes o ((next x).handle (Move.play setup)) m₁ a m' := by
      refine h.of_leads (Q := fun a s' w' => ∃ x m₁, Stretch.Comes o (move.play setup) m x m₁ ∧
        Stretch.Comes o ((next x).handle (Move.play setup)) m₁ a ⟨s', w'⟩) ?_
      rw [Program.handle, Stretch.leads_bind]
      refine (Stretch.leads_comes _).mono fun x s₁ w₁ hmove => ?_
      exact (Stretch.leads_comes _).mono fun a s' w' hrest => ⟨x, ⟨s₁, w₁⟩, hmove, hrest⟩
    obtain ⟨x, m₁, hmove, hrest⟩ := hnext
    obtain ⟨log, hplayed⟩ := ih x hrest
    exact ⟨_, .ask hmove hplayed⟩

/-- One program after another: first the one is played, and then the other. -/
theorem bind_inv {f : α → Program Move Move.Answer β} {b : β}
    (h : Played setup o (p >>= f) m log b m') : ∃ log₁ log₂ a m₁, log = log₁ ++ log₂ ∧
      Played setup o p m log₁ a m₁ ∧ Played setup o (f a) m₁ log₂ b m' := by
  induction p generalizing m log with
  | done a => exact ⟨[], log, a, m, rfl, .done a m, h⟩
  | ask move next ih =>
    cases h with
    | ask hmove hrest =>
      obtain ⟨log₁, log₂, a, m₁, rfl, hfirst, hlast⟩ := ih _ hrest
      exact ⟨_, log₂, a, m₁, (List.append_assoc _ _ _).symm, .ask hmove hfirst, hlast⟩

end Played

/-! ## Missing and hidden targets -/

theorem Exchange.eq_of_reply (x : Exchange) {y : Except BrowserError x.call.Answer}
    (h : x.reply = some y) : ⟨x.call, some y⟩ = x := by
  rcases x with ⟨c, reply⟩
  dsimp only at h
  rw [h]

/-- A call that looks for the target of an event. -/
inductive Call.Seeks : Call → Prop where
  | element (wanted : List (String × String)) (parent : Option Element) (patience : Duration) :
      Seeks (.find wanted parent patience)
  | frame (target : FrameTarget) : Seeks (.switchToFrame target)

/-- A call finds out that what it is about is missing or hidden. -/
inductive Exchange.Misses : Exchange → Prop where
  | element (wanted : List (String × String)) (parent : Option Element) (patience : Duration)
      (description : String) :
      Misses ⟨.find wanted parent patience, some (.error (.noSuchElement description))⟩
  | frame (target : FrameTarget) (description : String) :
      Misses ⟨.switchToFrame target, some (.error (.noSuchFrame description))⟩
  | hidden (c : Call) : Misses ⟨c, some (.error .elementNotVisible)⟩

namespace Event

/-- What an event that is not required comes to right after a call that has found its target missing or
hidden, and what it says by then. -/
inductive GivesWay (event : Event) (seen : World σ) : Exchange → Mishap → World σ → Prop where
  | element (wanted : List (String × String)) (parent : Option Element) (patience : Duration)
      (description : String) : GivesWay event seen
        ⟨.find wanted parent patience, some (.error (.noSuchElement description))⟩ .abort
        (seen.say (.log ("Failed to find " ++ event.name ++ " element " ++ description ++
          ", but required = false.")))
  | frame (target : FrameTarget) (description : String) : GivesWay event seen
      ⟨.switchToFrame target, some (.error (.noSuchFrame description))⟩ .abort
      (seen.say (.error ("No frame found matching " ++ description ++ ".")))
  | hidden (c : Call) : GivesWay event seen ⟨c, some (.error .elementNotVisible)⟩ .hidden seen

/-- A frame event that does not say which frame is meant. -/
inductive Misnamed (event : Event) : Mishap → Prop where
  | index (raw : String) : event.kind = .frame → Misnamed event (.invalid "index" raw)
  | missing (message : String) : event.kind = .frame → Misnamed event (.missing event message)

/-- What comes of a part of an event that is not required, given the calls that it makes itself. -/
inductive Bears (o : Outside σ) (event : Event) (start : World σ) :
    List Exchange → Except Mishap α → World σ → Prop where
  /-- No target is missing or hidden; the part fails only if a call fails, or for what is written. -/
  | finds {log : List Exchange} {r : Except Mishap α} {w : World σ} : (∀ x ∈ log, ¬ x.Misses) →
      (∀ mishap, r = .error mishap →
        (∃ x ∈ log, ∃ e, x.reply = some (.error e)) ∨ event.Misnamed mishap) →
      Bears o event start log r w
  /-- The last call finds that a target is missing or hidden. -/
  | misses (earlier : List Exchange) {x : Exchange} {asked seen w : World σ} {mishap : Mishap} :
      (∀ y ∈ earlier, ¬ y.Misses) → start.Later asked → asked.Exchanges o x seen →
      event.GivesWay seen x mishap w → Bears o event start (earlier ++ [x]) (.error mishap) w

end Event

namespace Act

/-- As long as the run is not stopped, an act of an event that is not required fares so. -/
def Lenient (o : Outside σ) (setup : Setup) (event : Event) (a : Act α) : Prop :=
  ∀ ⦃m : Moment σ⦄ ⦃log r m'⦄, Played setup o a.run m log r m' → m'.world.isStopped = false →
    event.Bears o m.world log r m'.world

theorem lenient_pure (a : α) : Lenient o setup event (pure a) := by
  intro m log r m' h _
  cases h
  exact .finds nofun nofun

theorem lenient_misnamed {mishap : Mishap} (h : event.Misnamed mishap) :
    Lenient o setup event (fail mishap : Act α) := by
  intro m log r m' hplayed _
  cases hplayed
  refine .finds nofun fun _ heq => .inr ?_
  cases heq
  exact h

theorem Lenient.bind {a : Act β} {f : β → Act α} (ha : Lenient o setup event a)
    (hf : ∀ b, Lenient o setup event (f b)) : Lenient o setup event (a >>= f) := by
  intro m log r m' hplayed hgoes
  rw [ExceptT.run_bind] at hplayed
  obtain ⟨log₁, log₂, r₁, m₁, rfl, hfirst, hlast⟩ := hplayed.bind_inv
  have hbears := ha hfirst (hlast.later.goes hgoes)
  cases r₁ with
  | error mishap =>
    cases hlast
    rw [List.append_nil]
    cases hbears with
    | finds hno hreason =>
      refine .finds hno fun _ heq => ?_
      cases heq
      exact hreason mishap rfl
    | misses _ hno hlater hexchanges hgives => exact .misses _ hno hlater hexchanges hgives
  | ok b =>
    cases hbears with
    | finds hno _ =>
      cases hf b hlast hgoes with
      | finds hno' hreason =>
        refine .finds (List.forall_mem_append.2 ⟨hno, hno'⟩) fun mishap hr => ?_
        exact (hreason mishap hr).imp_left fun ⟨x, hx, hfailed⟩ =>
          ⟨x, List.mem_append_right _ hx, hfailed⟩
      | misses _ hno' hlater hexchanges hgives =>
        rw [← List.append_assoc]
        exact .misses _ (List.forall_mem_append.2 ⟨hno, hno'⟩) (hfirst.later.trans hlater) hexchanges
          hgives

/-- A call comes first; the rest of the act is over if the call finds the target missing or hidden. -/
theorem lenient_attempt {c : Call} {f : Except BrowserError c.Answer → Act α}
    (hok : ∀ x, Lenient o setup event (f (.ok x)))
    (herror : ∀ e, ¬ Exchange.Misses ⟨c, some (.error e)⟩ →
      (∃ mishap, f (.error e) = fail mishap) ∨ Lenient o setup event (f (.error e)))
    (hmisses : ∀ e, Exchange.Misses ⟨c, some (.error e)⟩ → ∀ ⦃m : Moment σ⦄ ⦃log r m'⦄,
      Played setup o (f (.error e)).run m log r m' → log = [] ∧ ∃ mishap, r = .error mishap ∧
        event.GivesWay m.world ⟨c, some (.error e)⟩ mishap m'.world) :
    Lenient o setup event (attempt c >>= f) := by
  intro m log r m' hplayed hgoes
  have hprogram : (attempt c >>= f).run =
      .ask (.step (.act (.call c))) fun x => (orAbort x >>= f).run := rfl
  rw [hprogram] at hplayed
  cases hplayed with
  | @ask _ _ _ m₁ _ x log _ hmove hrest =>
    obtain ⟨y, rfl, hcalled⟩ | ⟨-, hstop⟩ := Move.called_or_stopped hmove
    case inr =>
      rw [hrest.later.goes hgoes] at hstop
      cases hstop
    replace hrest : Played setup o (f y).run m₁ log r m' := hrest
    change event.Bears o m.world (⟨c, some y⟩ :: log) r m'.world
    -- what has been answered decides
    have hgoesOn (hno : ¬ Exchange.Misses ⟨c, some y⟩) (h : Lenient o setup event (f y)) :
        event.Bears o m.world (⟨c, some y⟩ :: log) r m'.world := by
      cases h hrest hgoes with
      | finds hno' hreason =>
        refine .finds (List.forall_mem_cons.2 ⟨hno, hno'⟩) fun mishap hr => ?_
        exact (hreason mishap hr).imp_left fun ⟨x, hx, hfailed⟩ =>
          ⟨x, List.mem_cons_of_mem _ hx, hfailed⟩
      | @misses earlier x _ _ _ _ hno' hlater hexchanges hgives =>
        refine .misses (⟨c, some y⟩ :: earlier) (List.forall_mem_cons.2 ⟨hno, hno'⟩) ?_
          hexchanges hgives
        exact hmove.later.trans hlater
    cases y with
    | ok x => exact hgoesOn nofun (hok x)
    | error e =>
      by_cases hmiss : Exchange.Misses ⟨c, some (.error e)⟩
      · obtain ⟨rfl, mishap, rfl, hgives⟩ := hmisses e hmiss hrest
        exact .misses [] nofun (.refl _) (.answered hcalled) hgives
      · obtain ⟨mishap, hfail⟩ | hlenient := herror e hmiss
        · rw [hfail] at hrest
          cases hrest
          refine .finds (List.forall_mem_singleton.2 hmiss) fun _ _ => .inl ?_
          exact ⟨_, List.mem_singleton_self _, e, rfl⟩
        · exact hgoesOn hmiss hlenient

/-- Any other move is no call of the event. -/
theorem lenient_move (move : Move) (h : ∀ x, move.exchange? x = none) :
    Lenient o setup event (Act.move move) := by
  intro m log r m' hplayed _
  have hprogram : (Act.move move).run = .ask move fun x => .done (.ok x) := rfl
  rw [hprogram] at hplayed
  cases hplayed with
  | @ask _ _ _ _ _ x _ _ _ hrest =>
    cases hrest
    rw [h x]
    exact .finds nofun nofun

theorem lenient_say (r : Remark) : Lenient o setup event (say r) :=
  lenient_move (.say r) fun _ => rfl

/-- A call that is about something that has been found can only find it hidden. -/
theorem lenient_found {c : Call} {f : Except BrowserError c.Answer → Act α} (hc : ¬ c.Seeks)
    (hok : ∀ x, Lenient o setup event (f (.ok x)))
    (herror : ∀ e, f (.error e) = fail (.ofBrowser e) ∨
      e ≠ .elementNotVisible ∧ Lenient o setup event (f (.error e))) :
    Lenient o setup event (attempt c >>= f) := by
  refine lenient_attempt hok (fun e _ => ?_) fun e hmiss m log r m' hplayed => ?_
  · exact (herror e).imp (fun h => ⟨_, h⟩) And.right
  · cases hmiss with
    | element _ _ _ _ => exact absurd (.element ..) hc
    | frame _ _ => exact absurd (.frame _) hc
    | hidden _ =>
      obtain h | ⟨hne, -⟩ := herror .elementNotVisible
      · rw [h] at hplayed
        cases hplayed
        exact ⟨rfl, .hidden, rfl, .hidden c⟩
      · exact absurd rfl hne

theorem lenient_call {c : Call} (hc : ¬ c.Seeks) : Lenient o setup event (call c) :=
  lenient_found hc lenient_pure fun _ => .inl rfl

/-! ## Acts as they are put together -/

/-- Something is said, and then the event is over. -/
theorem played_told {r : Remark} {m m' : Moment σ} {log : List Exchange} {result : Except Mishap α}
    (h : Played setup o (say r >>= fun _ => (fail .abort : Act α)).run m log result m') :
    log = [] ∧ result = .error .abort ∧ m'.world = m.world.say r := by
  have hprogram : (say r >>= fun _ => (fail .abort : Act α)).run =
      .ask (.say r) fun _ => .done (.error .abort) := rfl
  rw [hprogram] at h
  cases h with
  | ask hmove hrest =>
    cases hrest
    have hsaid : m'.world = m.world.say r := hmove.of_leads (Q := fun _ _ w' => w' = m.world.say r)
      (Stretch.leads_ofWorker _ |>.2 (World.leads_say r |>.2 rfl))
    exact ⟨rfl, rfl, hsaid⟩

section Elements

variable (hrequired : event.required = false) (hexists : event.actions.flag? "exists" = none)

include hrequired hexists

/-- An event ends with a log line where its element is not found. -/
theorem lenient_sought {wanted : List (String × String)} {parent : Option Element}
    {patience : Duration} {f : Except BrowserError Element → Act α}
    (hmissing : ∀ description, f (.error (.noSuchElement description)) =
      (tellMissing event description >>= fun _ => fail .abort))
    (hpassed : ∀ e, (∀ description, e ≠ .noSuchElement description) →
      f (.error e) = fail (.ofBrowser e))
    (hok : ∀ x, Lenient o setup event (f (.ok x))) :
    Lenient o setup event (attempt (.find wanted parent patience) >>= f) := by
  refine lenient_attempt hok (fun e hno => .inl ⟨_, hpassed e ?_⟩) fun e hmiss m log r m' hplayed => ?_
  · rintro description rfl
    exact hno (.element ..)
  · cases hmiss with
    | hidden _ =>
      rw [hpassed .elementNotVisible nofun] at hplayed
      cases hplayed
      exact ⟨rfl, .hidden, rfl, .hidden _⟩
    | element _ _ _ description =>
      have htold : tellMissing event description = say (.log ("Failed to find " ++ event.name ++
          " element " ++ description ++ ", but required = false.")) := by
        unfold tellMissing
        rw [hexists, hrequired]
        rfl
      rw [hmissing, htold] at hplayed
      obtain ⟨rfl, rfl, hworld⟩ := played_told hplayed
      refine ⟨rfl, .abort, rfl, ?_⟩
      rw [hworld]
      exact .element ..

/-- **Everything that an event does with an element of its own fares so.** -/
theorem Composed.lenient {kind : Kind} (hneeds : kind.can .needsElement = true) {a : Act α}
    (ha : a.Composed setup event kind) : Lenient o setup event a := by
  have hcommand {c : Command} (heq : kind = .command c) : False := by
    subst heq
    cases c <;> cases hneeds
  induction ha with
  | pure a => exact lenient_pure a
  | fault _ hbare => exact absurd (hbare.symm.trans hneeds) Bool.false_ne_true
  | bind _ _ iha ihf => exact iha.bind ihf
  | @move m hsuits =>
    refine lenient_move m fun _ => ?_
    cases m with
    | say _ | now | calendar | edit _ => rfl
    | step _ | session | aroundClick _ _ _ | plugin _ _ _ => cases hsuits
  | fill raw => exact .bind (lenient_move .session fun _ => rfl) fun _ => lenient_pure _
  | bound name _ ih =>
    exact .bind (lenient_move .session fun _ => rfl) fun s => ih (s.vars.contains name)
  | remembered _ _ _ ih => exact .bind (lenient_move .session fun _ => rfl) ih
  | asked hsuits hminor _ _ ihok iherror =>
    refine lenient_found (fun hseeks => ?_) ihok fun e => ?_
    · cases hseeks with
      | element _ _ _ => cases hsuits
      | frame _ =>
        rw [show kind = .frame from hsuits] at hneeds
        cases hneeds
    · -- an answer that the event deals with itself is not that something is hidden
      refine or_iff_not_imp_left.2 fun hne => ⟨?_, iherror e hne⟩
      rintro rfl
      exact hminor _ hne
  | sought _ hmissing hpassed _ ihok => exact lenient_sought hrequired hexists hmissing hpassed ihok
  | click element _ =>
    exact .bind (lenient_move _ fun _ => rfl) fun _ => .bind (lenient_say _) fun _ =>
      .bind (lenient_call nofun) fun _ => lenient_move _ fun _ => rfl
  | @performed a hsuits =>
    cases a with
    | readFile _ | writeFile _ _ => exact (hsuits.elim hcommand hcommand).elim
    | runProcess _ => exact (hcommand hsuits).elim
    | call _ | loadScript _ => cases hsuits
  | loaded hkind _ _ _ | plugin hkind _ _ _ _ _ | activate hkind _ => exact (hcommand hkind).elim
  | told _ hunwanted _ =>
    have hflag := hunwanted hneeds
    rw [hexists] at hflag
    cases hflag
  | rest hrests => exact (hrests.elim hcommand hcommand).elim

/-- So does what every event makes use of. -/
theorem lenient_any {a : Act α} (ha : a.Composed setup event (.markup .div)) :
    Lenient o setup event a :=
  ha.lenient hrequired hexists rfl

theorem lenient_frame (hkind : event.kind = .frame) (parent : Option Element) :
    Lenient o setup event (frame setup event parent) := by
  have htarget : Lenient o setup event (frameTarget setup event parent) := by
    refine .bind (lenient_any hrequired hexists (composed_fill? _)) fun raw => ?_
    cases raw with
    | some raw =>
      dsimp only
      split
      · exact lenient_pure _
      · exact lenient_misnamed (.index _ hkind)
    | none =>
      refine .bind (lenient_any hrequired hexists (composed_fill? _)) fun name => ?_
      cases name with
      | some name => exact lenient_pure _
      | none =>
        dsimp only
        split
        · exact .bind (lenient_any hrequired hexists (composed_locate parent (.inr rfl))) fun _ =>
            lenient_pure _
        · exact lenient_misnamed (.missing _ hkind)
  refine htarget.bind fun target => .bind (lenient_say _) fun _ =>
    lenient_attempt (fun _ => lenient_pure ()) (fun e hno => ?_) ?_
  · cases e with
    | noSuchFrame description => exact absurd (.frame ..) hno
    | _ => exact .inl ⟨_, rfl⟩
  · rintro e hmiss m log r m' hplayed
    cases hmiss with
    | hidden _ =>
      cases hplayed
      exact ⟨rfl, .hidden, rfl, .hidden _⟩
    | frame _ description =>
      obtain ⟨rfl, rfl, hworld⟩ := played_told hplayed
      refine ⟨rfl, .abort, rfl, ?_⟩
      rw [hworld]
      exact .frame ..

end Elements

end Act

/-! ## Events -/

/-- What an event on an element or for a frame does itself. -/
def Event.reach (setup : Setup) (event : Event) (parent : Option Element) : Act Opened :=
  match event.kind with
  | .frame => do
    Act.frame setup event parent
    return { restore := .defaultContent }
  | _ => do
    let element ← Act.element setup event parent
    return { element := some element }

/-- The kinds of events that may say whether their target is required. -/
def Kind.TakesRequired (kind : Kind) : Prop :=
  kind.schema.actionType? "required" = some .flag

theorem Kind.takesRequired_iff {kind : Kind} :
    kind.TakesRequired ↔ kind = .frame ∨ kind.can .needsElement = true := by
  unfold Kind.TakesRequired
  cases kind with
  | command c => cases c <;> decide
  | frame => decide
  | markup m => cases m <;> decide
  | control c => cases c <;> decide

theorem Passage.act_bind (a : Act β) (f : β → Act α) :
    act setup (a >>= f) = act setup a >>= fun b => act setup (f b) := by
  refine ExceptT.ext ?_
  rw [ExceptT.run_bind, act, ExceptT.run_mk, Act.play, ExceptT.run_bind, Program.handle_bind]
  refine congrArg _ (funext fun r => ?_)
  cases r <;> rfl

theorem Passage.carryOut_eq {parent : Option Element} (h : event.kind.TakesRequired) :
    carryOut setup event parent = act setup (event.reach setup parent) := by
  unfold Event.reach carryOut
  cases hkind : event.kind with
  | frame | markup _ | control _ =>
    dsimp only
    rw [act_bind]
    rfl
  | command c =>
    rw [hkind, Kind.takesRequired_iff] at h
    cases c <;> rcases h with h | h <;> cases h

theorem Act.lenient_reach (parent : Option Element) (hrequired : event.required = false)
    (hexists : event.actions.flag? "exists" = none) :
    Lenient o setup event (event.reach setup parent) := by
  unfold Event.reach
  split
  · rename_i hkind
    exact .bind (lenient_frame hrequired hexists hkind parent) fun _ => lenient_pure _
  · have helement : (Act.element setup event parent).Composed setup event (.markup .div) :=
      Act.composed_element parent rfl
    exact .bind (lenient_any hrequired hexists helement) fun _ => lenient_pure _

/-- What is told of a target that is missing or hidden. -/
inductive Event.Tells (event : Event) : Exchange → List Report → Prop where
  | element (wanted : List (String × String)) (parent : Option Element) (patience : Duration)
      (description : String) : Tells event
        ⟨.find wanted parent patience, some (.error (.noSuchElement description))⟩
        [.log ("Failed to find " ++ event.name ++ " element " ++ description ++
          ", but required = false."), .log (event.name ++ " event aborted.")]
  /-- A missing frame is an error. -/
  | frame (target : FrameTarget) (description : String) : Tells event
      ⟨.switchToFrame target, some (.error (.noSuchFrame description))⟩
      [.error ("No frame found matching " ++ description ++ "."),
        .log (event.name ++ " event aborted.")]
  | hidden (c : Call) : Tells event ⟨c, some (.error .elementNotVisible)⟩
      [.log "Element is not visible, but required = false"]

namespace Stay

/-- The target of an event is missing or hidden: `seen` is the world in which a call has found it so. -/
structure Misses (o : Outside σ) (stay : Stay σ) (log : List Exchange) (x : Exchange)
    (seen : World σ) (reports : List Report) : Prop where
  /-- The call is the last one that the event makes. -/
  last : ∃ earlier, log = earlier ++ [x]
  asked : ∃ asked : World σ, stay.before.world.Later asked ∧ asked.Exchanges o x seen
  /-- The event counts as aborted, and nothing that belongs to it is run. -/
  fails : stay.visit.result = .error .abort ∨ stay.visit.result = .error .hidden
  within : stay.within = []
  tells : stay.event.Tells x reports
  /-- From then on nothing else is told until the failure of the event has been reported. -/
  reports_eq : ∃ d, stay.departure = some d ∧ d.left.world.reports = seen.reports ++ reports

/-- An event takes it lightly if its target is missing or hidden; `log` are the calls that it makes
itself. -/
structure TakesLightly (setup : Setup) (o : Outside σ) (stay : Stay σ) (log : List Exchange) :
    Prop where
  played : ∃ m, Played setup o (stay.event.reach setup stay.visit.parent).run
    (stay.before.starting stay.event stay.visit.parent) log stay.visit.result m ∧
      stay.carried.world = m.world.tell (.stage (.carriedOut stay.event stay.visit.result))
  /-- The history tells of these calls, in this order; a click may call plugins, which make others. -/
  told : ∃ made, calls stay.carried.world.history = calls stay.before.world.history ++ made ∧
    (log.map (·.call)).Sublist made
  misses : ∀ x ∈ log, x.Misses → ∃ seen reports, stay.Misses o log x seen reports ∧
    -- only a missing frame is more than a matter of log lines
    ((∀ target description, x ≠ ⟨.switchToFrame target, some (.error (.noSuchFrame description))⟩) →
      ∀ report ∈ reports, ∃ message, report = .log message)
  /-- So it is if something is hidden when the context is restored after the children. -/
  restores : ∀ opened d m, stay.visit.result = .ok opened → stay.departure = some d →
    Stretch.Comes o (Passage.restore setup opened.restore).run d.done (.error .hidden) m →
    d.left.world.reports = m.world.reports ++ [.log "Element is not visible, but required = false"]
  /-- Where nothing else fails, an event fails for nothing else, if it says what its target is. -/
  only : (∀ c e, o.Answers (.call c) (.error e) → Exchange.Misses ⟨c, some (.error e)⟩) →
    ∀ mishap, stay.visit.result = .error mishap →
      (∃ x ∈ log, x.Misses) ∨ stay.event.Misnamed mishap

end Stay

/-- Only a missing frame is more than a matter of log lines. -/
theorem Event.Tells.logs {x : Exchange} {reports : List Report} (h : event.Tells x reports)
    (hframe : ∀ target description,
      x ≠ ⟨.switchToFrame target, some (.error (.noSuchFrame description))⟩) :
    ∀ report ∈ reports, ∃ message, report = .log message := by
  cases h with
  | element _ _ _ _ =>
    exact List.forall_mem_cons.2 ⟨⟨_, rfl⟩, List.forall_mem_singleton.2 ⟨_, rfl⟩⟩
  | frame target description => exact absurd rfl (hframe target description)
  | hidden _ => exact List.forall_mem_singleton.2 ⟨_, rfl⟩

/-- What is answered to a move is what the outside may answer. -/
theorem answers_of_comes {move : Move} {answer : move.Answer}
    (h : Stretch.Comes o (move.play setup) m answer m') {x : Exchange}
    (hx : move.exchange? answer = some x) {y : Except BrowserError x.call.Answer}
    (hreply : x.reply = some y) : o.Answers (.call x.call) y := by
  rcases move with _ | ((c | _ | _ | _ | _) | _ | _) | _
  case step.act.call =>
    obtain ⟨z, rfl, hcalled⟩ | ⟨⟨cut, rfl⟩, -⟩ := Move.called_or_stopped h
    · cases hx
      cases hreply
      exact ⟨_, _, hcalled.ending⟩
    · cases hx
      cases hreply
  all_goals cases hx

/-- What has been answered in the course of an act is what the outside may answer. -/
theorem Played.answers {p : Program Move Move.Answer α} {a : α} {log : List Exchange}
    (h : Played setup o p m log a m') {x : Exchange} (hx : x ∈ log)
    {y : Except BrowserError x.call.Answer} (hreply : x.reply = some y) :
    o.Answers (.call x.call) y := by
  induction h with
  | done _ _ => cases hx
  | @ask move _ _ _ _ answer _ _ hmove _ ih =>
    rcases List.mem_append.1 hx with hx | hx
    · exact answers_of_comes hmove (Option.mem_toList.1 hx) hreply
    · exact ih hx

section Tours

open Stretch

variable {leg : Leg} {stays : List (Stay σ)} {r : Except Error Unit}

/-- What is told when the failure of an event is reported. -/
theorem Stretch.Comes.reports_eq {event : Event} {mishap : Mishap}
    (h : Comes o (Journey.report event (.own mishap)).run m r m') : m'.world.reports =
      m.world.reports ++ (event.verdict mishap).notice.report?.toList := by
  rw [(h.of_leads (leads_report_own event mishap)).1, World.reports_say]
  exact congrArg (· ++ _) ((World.reports_happen _ _).trans (List.append_nil _))

/-- What is told of an event that fails without having lost the browser. -/
theorem Tour.reports_of_error (h : Tour setup o leg m stays r m') {stay : Stay σ}
    (hmem : stay ∈ Stay.allOf stays) {mishap : Mishap} (hresult : stay.visit.result = .error mishap)
    (hkept : ∀ e, mishap ≠ .lost e) : ∃ d, stay.departure = some d ∧
      d.left.world.reports =
        stay.carried.world.reports ++ (stay.event.verdict mishap).notice.report?.toList := by
  obtain ⟨_, _, hsingle⟩ := h.single_of_mem hmem
  obtain ⟨⟨event, parent, result⟩, before, carried, within, departure⟩ := stay
  subst hresult
  cases hsingle with
  | @finished _ _ _ _ _ done left _ _ _ hwithin hsettle _ =>
    cases hwithin
    exact ⟨_, rfl, hsettle.reports_eq⟩
  | lost _ hwithin hsettle =>
    obtain ⟨e, he⟩ : ∃ e, mishap = .lost e :=
      ⟨_, (hsettle.of_leads (leads_report_own event mishap)).2 _ rfl⟩
    exact absurd he (hkept e)
  | unwound _ hwithin => cases hwithin

/-- An event of which the last call has found the target missing or hidden tells of nothing else. -/
theorem Tour.misses (h : Tour setup o leg m stays r m') {stay : Stay σ}
    (earlier : List Exchange) (hmem : stay ∈ Stay.allOf stays) {x : Exchange}
    {asked seen : World σ} {mishap : Mishap} (hresult : stay.visit.result = .error mishap)
    (hasked : stay.before.world.Later asked) (hexchanges : asked.Exchanges o x seen)
    (hgives : stay.event.GivesWay seen x mishap w) (hrequired : stay.event.required = false)
    (hworld : stay.carried.world = w.tell (.stage (.carriedOut stay.event stay.visit.result))) :
    ∃ reports, stay.Misses o (earlier ++ [x]) x seen reports := by
  have hcarried : stay.carried.world.reports = w.reports := by
    rw [hworld]
    exact (World.reports_happen _ _).trans (List.append_nil _)
  have hmisses {reports : List Report} (htells : stay.event.Tells x reports)
      (hfails : mishap = .abort ∨ mishap = .hidden)
      (hreports : w.reports ++ (stay.event.verdict mishap).notice.report?.toList =
        seen.reports ++ reports) : ∃ reports, stay.Misses o (earlier ++ [x]) x seen reports := by
    have hkept (e : Error) : mishap ≠ .lost e := by
      rcases hfails with rfl | rfl <;> nofun
    obtain ⟨d, hd, hleft⟩ := h.reports_of_error hmem hresult hkept
    refine ⟨reports, ⟨earlier, rfl⟩, ⟨asked, hasked, hexchanges⟩, ?_,
      h.within_of_error hmem hresult, htells, d, hd, ?_⟩
    · rw [hresult]
      exact hfails.imp (congrArg _) (congrArg _)
    · rw [hleft, hcarried, hreports]
  cases hgives with
  | element wanted parent patience description =>
    refine hmisses (.element wanted parent patience description) (.inl rfl) ?_
    rw [World.reports_say, List.append_assoc]
    rfl
  | frame target description =>
    refine hmisses (.frame target description) (.inl rfl) ?_
    rw [World.reports_say, List.append_assoc]
    rfl
  | hidden c =>
    refine hmisses (.hidden c) (.inr rfl) ?_
    rw [Event.verdict, hrequired]
    rfl

/-- Nothing but a log line is told of an event that finds something hidden in restoring the context. -/
theorem Tour.restores (h : Tour setup o leg m stays r m') {stay : Stay σ}
    (hmem : stay ∈ Stay.allOf stays) (hrequired : stay.event.required = false) (opened : Opened)
    (d : Departure σ) (failed : Moment σ) (hresult : stay.visit.result = .ok opened)
    (hd : stay.departure = some d)
    (hrestore : Comes o (Passage.restore setup opened.restore).run d.done (.error .hidden) failed) :
    d.left.world.reports =
      failed.world.reports ++ [.log "Element is not visible, but required = false"] := by
  obtain ⟨_, _, hsingle⟩ := h.single_of_mem hmem
  obtain ⟨⟨event, parent, result⟩, before, carried, within, departure⟩ := stay
  subst hresult
  replace hrequired : event.required = false := hrequired
  cases hsingle with
  | finished _ _ hsettle _ =>
    cases hd
    obtain ⟨u, hok, -⟩ | ⟨mishap, gone, herror, hreport⟩ := hsettle.settled
    · cases (hok.unique hrestore).1
    · obtain ⟨heq, rfl⟩ := herror.unique hrestore
      cases heq
      rw [hreport.reports_eq, Event.verdict, hrequired]
      rfl
  | lost _ _ _ | unwound _ _ => cases hd

theorem Tour.takesLightly (h : Tour setup o leg m stays r m') {stay : Stay σ}
    (hmem : stay ∈ Stay.allOf stays) (hkind : stay.event.kind.TakesRequired)
    (hrequired : stay.event.required = false) (hexists : stay.event.actions.flag? "exists" = .none)
    (hgoes : stay.carried.world.isStopped = false) : ∃ log, stay.TakesLightly setup o log := by
  obtain ⟨w, hworld, hcarried⟩ := comes_carryOut (h.opens hmem)
  rw [Passage.carryOut_eq hkind] at hcarried
  obtain ⟨log, hplayed⟩ := Played.exists_of_comes hcarried
  have hbears := Act.lenient_reach stay.visit.parent hrequired hexists hplayed (by
    rw [hworld] at hgoes
    exact hgoes)
  have htold : ∃ made, calls stay.carried.world.history = calls stay.before.world.history ++ made ∧
      (log.map (·.call)).Sublist made := by
    rw [hworld] at hgoes ⊢
    simpa [Moment.starting] using hplayed.exists_calls hgoes
  have hrestores := h.restores hmem hrequired
  generalize hresult : stay.visit.result = result at hbears hplayed
  cases hbears with
  | @finds _ _ _ hno hreason =>
    refine ⟨log, ⟨_, hresult ▸ hplayed, hworld⟩, htold,
      fun x hx hmiss => absurd hmiss (hno x hx), hrestores, fun honly mishap hfails => ?_⟩
    rw [hresult] at hfails
    obtain ⟨x, hx, e, hreply⟩ | hmisnamed := hreason mishap hfails
    · refine .inl ⟨x, hx, ?_⟩
      rw [← x.eq_of_reply hreply]
      exact honly x.call e (hplayed.answers hx hreply)
    · exact .inr hmisnamed
  | @misses earlier x asked seen _ mishap hno hlater hexchanges hgives =>
    have hasked := (Moment.later_starting stay.before stay.event stay.visit.parent).trans hlater
    obtain ⟨reports, hmisses⟩ :=
      h.misses earlier hmem hresult hasked hexchanges hgives hrequired hworld
    refine ⟨_, ⟨_, hresult ▸ hplayed, hworld⟩, htold, fun y hy hmiss => ?_, hrestores,
      fun _ _ _ => .inl ⟨x, List.mem_append_right _ (List.mem_singleton_self x), ?_⟩⟩
    · -- none of the calls before has found anything missing
      rcases List.mem_append.1 hy with hy | hy
      · exact absurd hmiss (hno y hy)
      · rw [List.mem_singleton.1 hy]
        exact ⟨seen, reports, hmisses, hmisses.tells.logs⟩
    · cases hgives with
      | element _ _ _ _ => exact .element ..
      | frame _ _ => exact .frame ..
      | hidden _ => exact .hidden _

end Tours

/-! ## Runs -/

section Runs

variable {calendar : Calendar} {stopAt : Option Duration} {events : List Event} {outside : σ}
  {ended : Ended σ}

/-- **What is not required is taken lightly.** Unless the run has been stopped by then, an event that is
not required and finds its target missing or hidden, with whichever call, makes no other call, counts as
aborted, and runs nothing of what belongs to it. Only log lines tell of it, and there is no exception.
Where nothing else can fail, it fails for nothing else. But of a missing frame an error is told. -/
theorem takesLightly_of_run (hrun : setup.run o calendar stopAt events outside = some ended) :
    ∃ (course : Course setup o calendar stopAt events outside ended) (stays : List (Stay σ)),
      Toured course stays ∧ ∀ stay ∈ Stay.allOf stays, stay.event.kind.TakesRequired →
        stay.event.required = false → stay.event.actions.flag? "exists" = none →
        stay.carried.world.isStopped = false → ∃ log, stay.TakesLightly setup o log := by
  obtain ⟨course⟩ := exists_course hrun
  obtain ⟨stays, htoured⟩ := course.toured
  obtain ⟨begun, hbegun, htour⟩ := htoured.tour
  exact ⟨course, stays, htoured, fun stay hmem => htour.takesLightly hmem⟩

/-- An outside with one window and an element that is hidden; it knows no frame, and no element by a
name. -/
def Outside.hazy : Outside Unit
  | .call .currentWindow, s => .answer s (.ok "main")
  | .call (.find [] _ _), s => .answer s (.ok ⟨"div", "div"⟩)
  | .call (.find ..), s => .answer s (.error (.noSuchElement "name"))
  | .call (.click _), s => .answer s (.error .elementNotVisible)
  | .call (.switchToFrame _), s => .answer s (.error (.noSuchFrame "name"))
  | _, s => { start := s, ending := none }

/-- An event that looks for an element that is missing, and one that clicks an element that is hidden. -/
def optionalEvents : List Event :=
  [{ kind := .markup .div, name := "div", selectors := ⟨[("name", .text "x")]⟩,
      actions := ⟨[("required", .flag false)]⟩ },
    { kind := .markup .div, name := "div",
      actions := ⟨[("required", .flag false), ("click", .flag true)]⟩ }]

theorem takesLightly_optionalRun : ∃ ended, Setup.small.run .hazy ⟨2020, 1, 1, 0, 0, 0⟩ none
      optionalEvents () = some ended ∧
    (results ended.world.history).map (fun x => x.2.toBool) = [false, false] ∧
    ended.world.summary = {} ∧
    ∃ (course : Course .small .hazy ⟨2020, 1, 1, 0, 0, 0⟩ none optionalEvents () ended)
      (stays : List (Stay Unit)), Toured course stays ∧ ∀ stay ∈ Stay.allOf stays,
        stay.event.kind.TakesRequired → stay.event.required = false →
        stay.event.actions.flag? "exists" = none → stay.carried.world.isStopped = false →
        ∃ log, stay.TakesLightly .small .hazy log := by
  have hshown : (Setup.small.run .hazy ⟨2020, 1, 1, 0, 0, 0⟩ none optionalEvents ()).map
      (fun ended => ((results ended.world.history).map fun x => x.2.toBool, ended.world.summary)) =
        some ([false, false], {}) := by
    decide +kernel
  obtain ⟨ended, hrun, hshown⟩ := Option.map_eq_some_iff.1 hshown
  obtain ⟨hresults, hsummary⟩ := Prod.mk.inj hshown
  exact ⟨ended, hrun, hresults, hsummary, takesLightly_of_run hrun⟩

/-- An event for a frame that is not required. -/
def optionalFrame : Event :=
  { kind := .frame, name := "frame", selectors := ⟨[("name", .text "x")]⟩,
    actions := ⟨[("required", .flag false)]⟩ }

/-- **An error is told of a missing frame that is not required**, and the test fails. -/
theorem blamed_optionalFrame :
    optionalFrame.required = false ∧ optionalFrame.actions.flag? "exists" = none ∧
    (Setup.small.run .hazy ⟨2020, 1, 1, 0, 0, 0⟩ none [optionalFrame] ()).map (fun ended =>
        (ended.world.isStopped, ended.world.reports, ended.world.summary)) =
      some (false, [.log "Running test 'small'...", .log "frame event started...",
        .log "Switching to frame Name(\"x\").", .error "No frame found matching name.",
        .log "frame event aborted.", .log "frame event finished."], { errors := 1 }) := by
  refine ⟨rfl, rfl, ?_⟩
  decide +kernel

end Runs
end PageScript
