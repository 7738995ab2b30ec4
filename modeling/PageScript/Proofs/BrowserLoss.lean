import PageScript.Proofs.AfterStop
import PageScript.Proofs.Unwinding

/-!
# The loss of the browser

An event that loses the browser ends the run. It tells of the loss and reports it, and so does no
other event; no event starts and no row begins any more, and the browser is called only at the end of
the test, for its plugins. Every scope of a row is left, the plugins at the end of the test have their
occasion, and the run has failed with the text of the error.

`Accounts` says of a history that each loss it tells of has been reported, and that everything in it
keeps to `lossLaw`. A run keeps accounts without a loss up to the first one, which unwinds the
traversal, and from then on accounts with that loss alone.
-/

namespace PageScript

/-! ## What a history tells of the loss -/

/-- The error of the loss that something tells of, if it does. -/
def Happening.loss? : Happening → Option Error
  | .stage (.failed _ (.lost e)) => some e
  | _ => none

/-- The losses of the browser that a history tells of, the newest first. -/
def losses (history : List Happening) : List Error :=
  history.filterMap Happening.loss?

/-- The error of the loss that a report is about, if it is about one. -/
def Report.loss? : Report → Option Error
  | .exception message e => if message = "Browser session lost" then some e else none
  | _ => none

/-- The error of the loss that something reports, if it does. -/
def Happening.reportedLoss? : Happening → Option Error
  | .notice (.report r) => r.loss?
  | _ => none

/-- The losses of the browser that are reported, the newest first, but for what plugins say. -/
def lossReports : List Happening → List Error
  | [] => []
  | h :: past =>
    if (underWay past).isNone then h.reportedLoss?.toList ++ lossReports past
    else lossReports past

/-- A call that belongs to the end of a test: the query before its plugins, or one of theirs. -/
def AtEnd (c : Call) (past : List Happening) : Prop :=
  (c = .windowHandles ∧ past.head? = some (.stage (.occasion { phase := .afterTest }))) ∨
    underWay past = some (some .afterTest)

/-- What may happen once an event has lost the browser. -/
def lossLaw : Happening → List Happening → Prop
  | .stage (.started ..), past => ¬ Lost past
  | .stage (.row _), past => ¬ Lost past
  | .stage (.occasion o), past => Lost past → o.phase = .afterTest
  | .stage (.pluginStarted _ phase), past => Lost past → phase = some .afterTest
  | .called c, past => Lost past → AtEnd c past
  | _, _ => True

/-- Every loss of the browser is reported once, and everything keeps to the law of the loss. -/
structure Accounts (gone : List Error) (way : Option (Option Phase)) (past : List Happening) :
    Prop where
  abides : Abides lossLaw past
  losses_eq : losses past = gone
  reports_eq : lossReports past = gone
  underWay_eq : underWay past = way

section Histories

variable {h : Happening} {past : List Happening} {gone : List Error}
  {way way' : Option (Option Phase)} {event : Event} {e : Error}

theorem lost_iff : Lost past ↔ losses past ≠ [] := by
  constructor
  · rintro ⟨event, e, hmem⟩ hnil
    have hloss : e ∈ losses past := List.mem_filterMap.2 ⟨_, hmem, rfl⟩
    rw [hnil] at hloss
    cases hloss
  · intro hne
    obtain ⟨e, he⟩ := List.exists_mem_of_ne_nil _ hne
    obtain ⟨h, hmem, hloss⟩ := List.mem_filterMap.1 he
    unfold Happening.loss? at hloss
    split at hloss
    · cases hloss
      exact ⟨_, _, hmem⟩
    · cases hloss

theorem losses_cons (hloss : h.loss? = none) : losses (h :: past) = losses past :=
  List.filterMap_cons_none hloss

theorem lossReports_cons (hreport : h.reportedLoss? = none ∨ (underWay past).isSome = true) :
    lossReports (h :: past) = lossReports past := by
  rw [lossReports]
  split
  · rename_i hcalm
    rcases hreport with hnone | hsome
    · rw [hnone]
      rfl
    · rw [Option.isNone_iff_eq_none] at hcalm
      rw [hcalm] at hsome
      cases hsome
  · rfl

namespace Accounts

theorem not_lost (h : Accounts [] way past) : ¬ Lost past :=
  fun hlost => lost_iff.1 hlost h.losses_eq

/-- Whatever neither tells of a loss nor reports one leaves the accounts as they were. -/
theorem cons (hpast : Accounts gone way past) (hlaw : lossLaw h past) (hloss : h.loss? = none)
    (hreport : h.reportedLoss? = none ∨ way.isSome = true)
    (hway : underWay (h :: past) = way') : Accounts gone way' (h :: past) where
  abides := abides_cons.2 ⟨hlaw, hpast.abides⟩
  losses_eq := (losses_cons hloss).trans hpast.losses_eq
  reports_eq := (lossReports_cons (by rwa [hpast.underWay_eq])).trans hpast.reports_eq
  underWay_eq := hway

/-- The first loss is told of and reported. -/
theorem lose (hpast : Accounts [] none past) (event : Event) (e : Error) :
    Accounts [e] none (.notice (.report (.exception "Browser session lost" e)) ::
      .stage (.failed event (.lost e)) :: past) where
  abides := abides_cons.2 ⟨trivial, abides_cons.2 ⟨trivial, hpast.abides⟩⟩
  losses_eq := congrArg (e :: ·) hpast.losses_eq
  reports_eq := by
    simp [lossReports, Happening.reportedLoss?, Report.loss?, underWay, hpast.underWay_eq,
      hpast.reports_eq]
  underWay_eq := hpast.underWay_eq

theorem ambient {ok : Stopper → Prop} (hpast : Accounts gone way past) (h' : h.Ambient ok) :
    Accounts gone way (h :: past) := by
  refine hpast.cons ?_ ?_ (.inl ?_) ((underWay_ambient h').trans hpast.underWay_eq) <;>
    cases h' <;> trivial

/-- What does not report the loss may be said at any time. -/
theorem remark (hpast : Accounts gone way past) {r : Remark} (htame : r.Tame ∨ way.isSome = true) :
    Accounts gone way (.notice r.notice :: past) := by
  refine hpast.cons ?_ ?_ (htame.imp_left fun htame => ?_)
    ((underWay_remark r).trans hpast.underWay_eq)
  · cases r <;> trivial
  · cases r <;> rfl
  · rcases r with (_ | _ | _ | ⟨message, e⟩ | _ | _) | _ | _ <;> try rfl
    exact if_neg fun heq => htame e (by rw [heq]; rfl)

/-- A call may be made before the loss, and by the plugins at the end of a test. -/
theorem call (hpast : Accounts gone way past) (c : Call)
    (hmay : Lost past → AtEnd c past) : Accounts gone way (.called c :: past) :=
  hpast.cons hmay rfl (.inl rfl) hpast.underWay_eq

end Accounts

end Histories

namespace World

variable {σ : Type} {o : Outside σ} {w w' : World σ} {gone : List Error}
  {way phase : Option (Option Phase)} {g : Guard}

theorem Elapses.accounts {ok : Stopper → Prop} (h : w.Elapses ok w')
    (hw : Accounts gone way w.history) : Accounts gone way w'.history :=
  h.adds.keeps (P := Accounts gone way) (fun _ _ hambient hpast => hpast.ambient hambient) hw

theorem accounts_step (s : Step)
    (hmay : ∀ c, Lost w.history → s = .act (.call c) → AtEnd c w.history)
    (h : Accounts gone way w.history) : Accounts gone way (w.step o g s).2.history := by
  refine (elapses_step o g w s).accounts ?_
  rcases s with (c | _ | _ | _ | _) | _ | _
  · exact h.call c fun hlost => hmay c hlost rfl
  all_goals exact h

theorem accounts_guarded (s : Step)
    (hmay : ∀ c, Lost w.history → s = .act (.call c) → AtEnd c w.history)
    (h : Accounts gone way w.history) :
    w.Leads o (Worker.guarded g s) fun _ w' => Accounts gone way w'.history := by
  rw [leads_guarded]
  split
  · exact h
  · exact accounts_step s hmay h

/-- A plugin keeps the accounts, whatever it says; once the browser is lost only those at the end of
a test may run. -/
theorem accounts_plugin {phase : Option Phase} (p : Plugin) (c : PluginContext)
    (hmay : Lost w.history → phase = some .afterTest) (h : Accounts gone none w.history) :
    w.Leads o (p.run g phase c) fun _ w' => Accounts gone none w'.history := by
  have hunder : Under o g (fun w' => Accounts gone (some phase) w'.history)
      fun _ w' => Accounts gone (some phase) w'.history := by
    refine .of_step (fun r h' => h'.remark (.inr rfl))
      (fun h' => (elapses_stop (fun _ => True) trivial).accounts h')
      (fun s h' => accounts_step s (fun c hlost _ => .inr (h'.underWay_eq.trans ?_)) h')
    -- the browser has been lost before the plugin as well
    rw [lost_iff, h'.losses_eq, ← h.losses_eq] at hlost
    rw [hmay (lost_iff.2 hlost)]
  exact hunder.plugin p c (fun _ => h) (fun _ => h.cons hmay rfl (.inl rfl) rfl)
    (fun _ _ h' => h'.cons trivial rfl (.inl rfl) rfl)
    (fun _ _ h' => h'.cons trivial rfl (.inl rfl) rfl)

theorem accounts_dispatch (setup : Setup) (s : Session) {occasion : Occasion}
    (hmay : gone ≠ [] → occasion.phase = .afterTest ∧
      w.history.head? = some (.stage (.occasion { phase := .afterTest })))
    (h : Accounts gone none w.history) :
    w.Leads o (s.dispatch setup g occasion) fun _ w' => Accounts gone none w'.history := by
  have hgone {w' : World σ} (h' : Accounts gone none w'.history) (hlost : Lost w'.history) :
      gone ≠ [] := h'.losses_eq ▸ lost_iff.1 hlost
  refine Session.leads_dispatch (P := fun w' => Accounts gone none w'.history) setup s
    (fun _ r htame h' => h'.remark (.inl htame)) ?_ (fun w' p c h' => ?_) h
  · refine accounts_guarded _ (fun c hlost heq => ?_) h
    cases heq
    exact .inl ⟨rfl, (hmay (hgone h hlost)).2⟩
  · exact accounts_plugin p c (fun hlost => congrArg some (hmay (hgone h' hlost)).1) h'

theorem accounts_fire {setup : Setup} {s : Session} {occasion : Occasion}
    (h : Accounts [] none w.history) :
    w.Leads o (s.fire setup occasion) fun _ w' => Accounts [] none w'.history := by
  rw [Session.leads_fire]
  split
  · exact h
  · exact accounts_dispatch setup s (fun hne => absurd rfl hne)
      (h.cons (fun hlost => absurd hlost h.not_lost) rfl (.inl rfl) h.underWay_eq)

theorem accounts_move {setup : Setup} {s : Session} (m : Move) (htame : m.Tame)
    (h : Accounts [] none w.history) :
    Stretch.Leads o (m.play setup) s w fun _ _ w' => Accounts [] none w'.history := by
  cases m with
  | say r => exact Stretch.leads_ofWorker _ |>.2 (leads_say r |>.2 (h.remark (.inl htame)))
  | step st =>
    refine Stretch.leads_ofWorker _ |>.2 ?_
    exact accounts_guarded st (fun _ hlost => absurd hlost h.not_lost) h
  | aroundClick side event element => exact Stretch.leads_fire _ _ |>.2 (accounts_fire h)
  | plugin p element args =>
    rw [Move.play, Stretch.leads_bind, Stretch.leads_get, Stretch.leads_ofWorker]
    exact accounts_plugin p _ (fun hlost => absurd hlost h.not_lost) h
  | now => simpa [Move.play] using h
  | calendar => simpa [Move.play] using h
  | session => simpa [Move.play] using h
  | edit e => simpa [Move.play] using h

end World

/-! ## Traversals -/

namespace World

variable {σ : Type} {o : Outside σ} {setup : Setup} {w : World σ} {gone : List Error}

theorem accounts_extend (d : Duration) (h : Accounts gone none w.history) :
    Accounts gone none (w.extend d).history :=
  h.cons trivial rfl (.inl rfl) h.underWay_eq

/-- An event keeps the accounts up to the loss, and then it is told of and reported. -/
theorem accounts_heeds {α : Type} {p : Passage α} {s : Session} {event : Event}
    (hp : p.Heeds setup) (h : Accounts [] none w.history) :
    Stretch.Ends o p s w (fun _ _ w' => Accounts [] none w'.history) fun m _ =>
      (Failure.own m).Meets (fun w' => Accounts [] none w'.history)
        (fun e w' => e.isLoss = true ∧ Accounts [e] none w'.history) event := by
  refine (hp.ends accounts_move accounts_extend h).mono (fun _ _ _ h' => h') ?_
  rintro m _ w' ⟨h', hloss⟩
  cases m with
  | lost e => exact ⟨hloss e rfl, h'.lose event e⟩
  | _ => exact h'

/-- A traversal keeps accounts without a loss, or it is ended by the first one. -/
theorem unwinds_accounts (setup : Setup) (o : Outside σ) :
    Unwinds setup o (fun _ w => Accounts [] none w.history)
      fun _ e w => e.isLoss = true ∧ Accounts [e] none w.history where
  say r htame h := h.remark (.inl htame)
  query h := accounts_guarded _ (fun _ hlost => absurd hlost h.not_lost) h
  fire _ h := accounts_fire h
  opens {way w s} event parent _ h := by
    have hlaw : lossLaw (.stage (.started event parent)) w.history := h.not_lost
    have hstarted : Accounts [] none
        (w.tell (.stage (.started event parent))).pulse.history :=
      (h.cons hlaw rfl (.inl rfl) h.underWay_eq).cons trivial rfl (.inl rfl) h.underWay_eq
    have hresult {w' : World σ} (h' : Accounts [] none w'.history)
        (result : Except Mishap Opened) :
        Accounts [] none (w'.tell (.stage (.carriedOut event result))).history :=
      h'.cons trivial rfl (.inl rfl) h'.underWay_eq
    unfold Stretch.Ends
    rw [Passage.openEvent, Stretch.leads_run_bind, Stretch.leads_run_lift]
    refine Stretch.Leads.mono ((Passage.heeds_carryOut setup event parent).ends accounts_move
      accounts_extend hstarted) fun result s' w' h' => ?_
    dsimp only
    rw [Stretch.leads_run_bind, Stretch.leads_passage_tell]
    refine Stretch.leads_pure result |>.2 ?_
    -- only the event that has lost the browser itself accounts for the loss
    rcases result with (_ | _ | e | _) | opened
    · exact hresult h'.1 _
    · exact hresult h'.1 _
    · exact ⟨h'.2 e rfl, (hresult h'.1 _).lose event e⟩
    · exact hresult h'.1 _
    · exact hresult h' _
  restores event r h := accounts_heeds (Passage.heeds_restore setup r) h
  fails event m hne h := by
    refine h.cons trivial ?_ (.inl rfl) h.underWay_eq
    cases m with
    | lost e => exact absurd rfl (hne e)
    | _ => rfl
  halts event e h := ⟨h.1, h.2.cons trivial rfl (.inl rfl) h.2.underWay_eq⟩
  leaves h := h
  finishes {way w} event element h := by
    have hpulse : Accounts [] none w.pulse.history := h.cons trivial rfl (.inl rfl) h.underWay_eq
    exact hpulse.cons trivial rfl (.inl rfl) h.underWay_eq
  rows {way w} cells _ h := by
    have hlaw : lossLaw (.stage (.row cells)) w.history := h.not_lost
    exact h.cons hlaw rfl (.inl rfl) h.underWay_eq

/-! ## From the start of a run to its end -/

theorem accounts_fireAfterTest (s : Session) (h : Accounts gone none w.history) :
    w.Leads o (s.fireAfterTest setup) fun _ w' => Accounts gone none w'.history := by
  have hoccasion : Accounts gone none
      (w.tell (.stage (.occasion { phase := .afterTest }))).history :=
    h.cons (fun _ => rfl) rfl (.inl rfl) h.underWay_eq
  rw [Session.leads_fireAfterTest]
  refine (accounts_dispatch setup s (fun _ => ⟨rfl, rfl⟩) hoccasion).mono fun ending w' h' => ?_
  cases ending with
  | finished => exact h'
  | timeUp =>
    refine Accounts.remark (r := .error _) ?_ (.inl fun _ heq => by cases heq)
    split
    · exact h'
    · exact (elapses_stop (fun _ => True) trivial).accounts h'

theorem accounts_opened (setup : Setup) (calendar : Calendar) (stopAt : Option Duration)
    (events : List Event) (outside : σ) :
    Accounts [] none (opened setup calendar stopAt events outside).history := by
  have hdawn : Accounts [] none (dawn setup calendar stopAt outside).history :=
    ⟨abides_cons.2 ⟨trivial, abides_nil⟩, rfl, rfl, rfl⟩
  exact keeps_opened (P := fun w => Accounts [] none w.history)
    (fun _ htame h => h.remark (.inl htame)) Elapses.accounts hdawn events

end World

namespace Course

variable {σ : Type} {o : Outside σ} {setup : Setup} {calendar : Calendar}
  {stopAt : Option Duration} {events : List Event} {outside : σ} {ended : Ended σ}

/-- The losses of the browser that the result of a run tells of. -/
def gone (course : Course setup o calendar stopAt events outside ended) : List Error :=
  match course.result with
  | .ok _ => []
  | .error e => [e]

/-- The events leave the scopes as many as they were, and tell of a loss only if they end with it. -/
theorem events_end (course : Course setup o calendar stopAt events outside ended) :
    (setup.session calendar).Steady course.session ∧
      Accounts course.gone none course.before.history ∧
      ∀ e, course.result = .error e → e.isLoss = true := by
  have hmain := (World.unwinds_accounts setup o).main events
    (World.accounts_opened setup calendar stopAt events outside) _ _ course.run_main
  unfold gone
  revert hmain
  cases course.result with
  | ok _ => exact fun hmain => ⟨hmain.1, hmain.2, fun _ heq => by cases heq⟩
  | error e => exact fun hmain => ⟨hmain.1, hmain.2.2, fun _ heq => by cases heq; exact hmain.2.1⟩

theorem accounts (course : Course setup o calendar stopAt events outside ended) :
    Accounts course.gone none ended.world.history := by
  have hafter := World.accounts_fireAfterTest course.session course.events_end.2.1 _ _
    course.run_plugins
  exact course.keeps_end (P := fun w => Accounts course.gone none w.history)
    (fun _ htame h => h.remark (.inl htame)) World.Elapses.accounts hafter

/-- A run comes to the end of its events exactly if none of them has lost the browser. -/
theorem result_eq_ok_iff (course : Course setup o calendar stopAt events outside ended) :
    course.result = .ok () ↔ ¬ Lost ended.world.history := by
  rw [lost_iff, course.accounts.losses_eq, gone]
  cases course.result <;> simp

end Course
end PageScript
