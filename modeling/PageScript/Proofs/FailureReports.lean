import PageScript.Proofs.DryRuns
import PageScript.Proofs.FailureReasons
import PageScript.Proofs.RestoredContext
import PageScript.Proofs.RunTours

/-!
# No failure passes in silence

An event fails in what it does itself, or in what restores the context after its children, or because
the loss of the browser has ended what belongs to it. Each time the run tells of an error or an
exception: before the event gives up, or when its failure is reported, or, for a loss, in the event
within it that has lost the browser. This is between the start of the event and its finish, and the
counts of the test are spoiled by it. What passes without such a word is a target that is missing or
hidden where the event is not required, and an element that is absent as the event expects.
-/

namespace PageScript

variable {σ α : Type} {o : Outside σ} {setup : Setup}

/-- A report that something has gone wrong. -/
inductive Report.IsFault : Report → Prop where
  | error (message : String) : IsFault (.error message)
  | exception (message : String) (cause : Error) : IsFault (.exception message cause)

/-! ## Failures of stays -/

/-- What is said when the failure of an event is reported. -/
def Event.verdict (event : Event) : Mishap → Remark
  | .abort => .log (event.name ++ " event aborted.")
  | .hidden =>
    if event.required then .error "Element is not visible"
    else .log "Element is not visible, but required = false"
  | .fault e => .exception "Exception during event execution" e
  | .lost e => .exception "Browser session lost" e

namespace Stay

/-- An event fails, and it is from this moment on that the failure is reported. -/
inductive Fails (setup : Setup) (o : Outside σ) (stay : Stay σ) : Failure → Moment σ → Prop where
  /-- The event fails in what it does itself. -/
  | itself {mishap : Mishap} : stay.visit.result = .error mishap →
      Fails setup o stay (.own mishap) stay.carried
  /-- What belongs to the event and comes before its children has been ended. -/
  | within {opened : Opened} {e : Error} {m : Moment σ} : stay.visit.result = .ok opened →
      Tour setup o (opened.inner.leg stay.event.children stay.visit.parent) stay.carried stay.within
        (.error e) m →
      Fails setup o stay (.halted e) m
  /-- What restores the context after the children fails. -/
  | after {opened : Opened} {mishap : Mishap} {done m : Moment σ} :
      stay.visit.result = .ok opened →
      Tour setup o (.within stay.event stay.visit.parent stay.visit.result) stay.carried stay.within
        (.ok ()) done →
      Stretch.Comes o (Passage.restore setup opened.restore).run done (.error mishap) m →
      Fails setup o stay (.own mishap) m

/-- An error or an exception tells of a failure: `gone` is the world in which the event has given up,
and `reported` the one in which its failure has been reported. -/
inductive Blamed (setup : Setup) (o : Outside σ) (stay : Stay σ) (gone reported : World σ) :
    Failure → Prop where
  /-- It is the last that has been told before the event has given up. -/
  | before {w : World σ} (message : String) : stay.before.world.Later w →
      gone = w.say (.error message) → Blamed setup o stay gone reported .abort
  /-- It is what the report of the failure says. -/
  | reported {mishap : Mishap} {w : World σ} {report : Report} : report.IsFault →
      stay.before.world.Later w → reported = w.say (.report report) →
      Blamed setup o stay gone reported (.own mishap)
  /-- It is what the report of the loss has said in the event within that has lost the browser. -/
  | within {e : Error} {inner : Stay σ} {m : Moment σ} {w : World σ} : inner ∈ allOf stay.within →
      inner.Fails setup o (.lost e) m → stay.before.world.Later inner.before.world →
      inner.before.world.Later w → (w.say (.exception "Browser session lost" e)).Later gone →
      Blamed setup o stay gone reported (.halted e)

/-- A failure for which no error and no exception is due. -/
inductive Excused (o : Outside σ) (stay : Stay σ) (gone : World σ) : Failure → Prop where
  /-- The event is not required, and its element has just been looked for and is missing. -/
  | missing {wanted : List (String × String)} {parent : Option Element} {patience : Duration}
      {description : String} {asked seen : World σ} (r : Remark) : stay.event.required = false →
      stay.before.world.Later asked →
      asked.Called o (.find wanted parent patience) (.error (.noSuchElement description)) seen →
      gone = seen.say r → Excused o stay gone .abort
  /-- The event expects that there is no such element, and it has just been looked for and is missing. -/
  | absent {wanted : List (String × String)} {parent : Option Element} {patience : Duration}
      {description : String} {asked seen : World σ} (r : Remark) :
      stay.event.actions.flag? "exists" = some false → stay.before.world.Later asked →
      asked.Called o (.find wanted parent patience) (.error (.noSuchElement description)) seen →
      gone = seen.say r → Excused o stay gone .abort
  /-- The event is not required, and the browser has just answered that the element is hidden. -/
  | hidden {c : Call} {asked : World σ} : stay.event.required = false →
      stay.before.world.Later asked → asked.Called o c (.error .elementNotVisible) gone →
      Excused o stay gone .hidden
  /-- The event is not required, and the plugin or the script that it asks for has answered so. -/
  | passedOn : stay.event.required = false → stay.event.kind.PassesOn → Excused o stay gone .hidden

/-- What becomes of a failure of an event from the moment on from which it is reported. -/
structure Answers (setup : Setup) (o : Outside σ) (stay : Stay σ) (failure : Failure)
    (m : Moment σ) (gone : World σ) (reported : Moment σ) : Prop where
  begun : stay.before.world.Later gone
  /-- Nothing comes in between but that the event is told to have been carried out. -/
  given : m.world = gone ∨
    m.world = gone.tell (.stage (.carriedOut stay.event stay.visit.result))
  report : ∃ r, Stretch.Comes o (Journey.report stay.event failure).run m r reported
  /-- The failure is reported before the event finishes. -/
  leaves : ∀ d, stay.departure = some d → d.left = reported
  /-- Unless the run has been stopped by then, an error or an exception tells of the failure or none
  is due. -/
  reason : reported.world.isStopped = false →
    stay.Blamed setup o gone reported.world failure ∨ stay.Excused o gone failure

end Stay

/-! ## Reports of failures -/

section Reports

open Stretch

variable {event : Event} {s : Session} {w : World σ}

/-- The failure of an event is reported with what there is to say of it. -/
theorem leads_report_own (event : Event) (mishap : Mishap) :
    Leads o (Journey.report event (.own mishap)).run s w fun r _ w' =>
      w' = (w.tell (.stage (.failed event (.own mishap)))).say (event.verdict mishap) ∧
        ∀ e, r = .error e → mishap = .lost e := by
  unfold Journey.report
  rw [leads_run_bind, leads_journey_tell]
  cases mishap with
  | abort => exact leads_journey_say _ |>.2 ⟨rfl, nofun⟩
  | hidden =>
    dsimp only [Event.verdict]
    split <;> exact leads_journey_say _ |>.2 ⟨rfl, nofun⟩
  | fault e => exact leads_journey_say _ |>.2 ⟨rfl, nofun⟩
  | lost e =>
    dsimp only
    rw [leads_run_bind, leads_journey_say]
    refine leads_run_throw e |>.2 ⟨rfl, fun e' heq => ?_⟩
    rw [Except.error.inj heq]

variable {stay : Stay σ} {mishap : Mishap} {gone : World σ} {m reported : Moment σ}

/-- A failure that is reported with an error or an exception is told of. -/
theorem Stay.blamed_of_report {r : Except Error Unit}
    (hreport : Comes o (Journey.report stay.event (.own mishap)).run m r reported)
    (hbegun : stay.before.world.Later m.world) {report : Report} (hfault : report.IsFault)
    (hverdict : stay.event.verdict mishap = .report report) :
    stay.Blamed setup o gone reported.world (.own mishap) := by
  obtain ⟨hworld, -⟩ := hreport.of_leads (leads_report_own stay.event mishap)
  rw [hverdict] at hworld
  exact .reported hfault (hbegun.trans (World.later_tell _ _)) hworld

/-- What the browser finds hidden is told of if the event is required. -/
theorem Stay.answered_hidden {r : Except Error Unit}
    (hreport : Comes o (Journey.report stay.event .hidden).run m r reported)
    (hbegun : stay.before.world.Later m.world)
    (hexcused : stay.event.required = false → stay.Excused o gone .hidden) :
    stay.Blamed setup o gone reported.world .hidden ∨ stay.Excused o gone .hidden := by
  cases hrequired : stay.event.required with
  | true =>
    refine .inl (blamed_of_report hreport hbegun (.error "Element is not visible") ?_)
    rw [Event.verdict, hrequired]
    rfl
  | false => exact .inr (hexcused hrequired)

/-- An event that has given up for a reason is blamed or excused. -/
theorem Stay.answered_of_givesUp {r : Except Error Unit} {start : World σ}
    (hgives : stay.event.GivesUp o start mishap gone) (hstart : stay.before.world.Later start)
    (hreport : Comes o (Journey.report stay.event (.own mishap)).run m r reported)
    (hbegun : stay.before.world.Later m.world) :
    stay.Blamed setup o gone reported.world (.own mishap) ∨
      stay.Excused o gone (.own mishap) := by
  cases hgives with
  | told message hlater => exact .inl (.before message (hstart.trans hlater) rfl)
  | missing r hasked hcalled hspared =>
    obtain hrequired | hexists := hspared
    · exact .inr (.missing r hrequired (hstart.trans hasked) hcalled rfl)
    · exact .inr (.absent r hexists (hstart.trans hasked) hcalled rfl)
  | hidden hasked hcalled =>
    exact answered_hidden hreport hbegun fun hrequired =>
      .hidden hrequired (hstart.trans hasked) hcalled
  | passedOn hkind =>
    exact answered_hidden hreport hbegun fun hrequired => .passedOn hrequired hkind
  | fault e => exact .inl (blamed_of_report hreport hbegun (.exception _ e) rfl)
  | lost e => exact .inl (blamed_of_report hreport hbegun (.exception _ e) rfl)

end Reports

/-! ## Failures on a tour -/

section Tours

open Stretch

variable {leg : Leg} {m m' : Moment σ} {stays : List (Stay σ)} {r : Except Error Unit}
  {event : Event} {parent : Option Element} {opened : Opened}

/-- An event is settled by restoring the context; where this fails, by the report of it. -/
theorem Stretch.Comes.settled (h : Comes o (Journey.settle setup event (.ok opened)).run m r m') :
    (∃ u, Comes o (Passage.restore setup opened.restore).run m (.ok u) m' ∧ r = .ok ()) ∨
    ∃ mishap m₁, Comes o (Passage.restore setup opened.restore).run m (.error mishap) m₁ ∧
      Comes o (Journey.report event (.own mishap)).run m₁ r m' := by
  refine h.of_leads (Q := fun r s' w' =>
    (∃ u, Comes o (Passage.restore setup opened.restore).run m (.ok u) ⟨s', w'⟩ ∧ r = .ok ()) ∨
    ∃ mishap m₁, Comes o (Passage.restore setup opened.restore).run m (.error mishap) m₁ ∧
      Comes o (Journey.report event (.own mishap)).run m₁ r ⟨s', w'⟩)
    (Journey.leads_settle ((leads_comes _).mono fun result s₁ w₁ hrestore => ?_))
  cases result with
  | ok u => exact .inl ⟨u, hrestore, rfl⟩
  | error mishap =>
    exact (leads_comes _).mono fun r s' w' hreport => .inr ⟨mishap, ⟨s₁, w₁⟩, hrestore, hreport⟩

/-- An error that goes out through a tour is that of an event on it which has lost the browser, and
has been told of there. -/
def Tour.Betrays (setup : Setup) (o : Outside σ) (m : Moment σ) (stays : List (Stay σ))
    (r : Except Error Unit) (m' : Moment σ) : Prop :=
  ∀ e, r = .error e → ∃ inner ∈ Stay.allOf stays, ∃ (lost : Moment σ) (w : World σ),
    inner.Fails setup o (.lost e) lost ∧ m.world.Later inner.before.world ∧
      inner.before.world.Later w ∧ (w.say (.exception "Browser session lost" e)).Later m'.world

theorem Tour.Betrays.mono {m₀ m₁ : Moment σ} {stays' : List (Stay σ)}
    (h : Tour.Betrays setup o m stays r m') (hstays : ∀ stay ∈ Stay.allOf stays,
      stay ∈ Stay.allOf stays') (hbegin : m₀.world.Later m.world)
    (hend : m'.world.Later m₁.world) : Tour.Betrays setup o m₀ stays' r m₁ := by
  rintro e rfl
  obtain ⟨inner, hmem, lost, w, hfails, hbefore, hw, hsaid⟩ := h e rfl
  exact ⟨inner, hstays inner hmem, lost, w, hfails, hbegin.trans hbefore, hw, hsaid.trans hend⟩

theorem spans_betrays (setup : Setup) (o : Outside σ) :
    Tour.Spans setup o (Tour.Betrays setup o) where
  refl _ _ heq := by cases heq
  trans _ hlater hbegin _ := by
    refine hlater.mono (fun stay hmem => ?_) hbegin (.refl _)
    rw [Stay.allOf_append]
    exact List.mem_append_right _ hmem
  skips _ _ heq := by cases heq
  row _ _ h := h.mono (fun _ => id) (World.later_tell _ _) (.refl _)
  halts h hreport := h.mono (fun _ => id) (.refl _) hreport.later
  finishes _ _ _ _ _ _ heq := by cases heq
  loses {m event parent result carried within done e m'} hopen hwithin h hsettle := by
    rintro e' heq
    cases heq
    let stay : Stay σ := ⟨⟨event, parent, result⟩, m, carried, within, none⟩
    have hbegun : stay.before.world.Later done.world :=
      (Moment.later_starting _ _ _).trans (hopen.later.trans hwithin.later)
    have hreported {mishap : Mishap} {lost : Moment σ} (hlater : stay.before.world.Later lost.world)
        (hfails : stay.Fails setup o (.own mishap) lost)
        (hreport : Comes o (Journey.report event (.own mishap)).run lost (.error e) m') :
        ∃ inner ∈ Stay.allOf [stay], ∃ (lost : Moment σ) (w : World σ),
          inner.Fails setup o (.lost e) lost ∧ m.world.Later inner.before.world ∧
            inner.before.world.Later w ∧
              (w.say (.exception "Browser session lost" e)).Later m'.world := by
      obtain ⟨hworld, hlost⟩ := hreport.of_leads (leads_report_own event mishap)
      cases hlost e rfl
      let told : World σ := lost.world.tell (.stage (.failed event (.lost e)))
      have hsaid : m'.world = told.say (.exception "Browser session lost" e) := hworld
      refine ⟨stay, ?_, lost, told, hfails, .refl _, hlater.trans (World.later_tell _ _), ?_⟩
      · rw [Stay.allOf_singleton]
        exact List.mem_cons_self ..
      · rw [hsaid]
        exact .refl _
    cases result with
    | error mishap =>
      cases hwithin
      exact hreported hbegun (.itself rfl) hsettle
    | ok opened =>
      obtain ⟨_, -, hr⟩ | ⟨mishap, lost, hrestore, hreport⟩ := hsettle.settled
      · cases hr
      · exact hreported (hbegun.trans hrestore.later) (.after rfl hwithin hrestore) hreport
  unwinds hopen _ h := by
    refine h.mono (fun stay hmem => ?_) ((Moment.later_starting _ _ _).trans hopen.later) (.refl _)
    rw [Stay.allOf_singleton]
    exact List.mem_cons_of_mem _ hmem

variable {stay : Stay σ} {failure : Failure}

/-- An event that fails in what it does itself is blamed or excused. -/
theorem Tour.answers_itself (hnot : setup.Uncancelled o) {mishap : Mishap}
    {result : Except Mishap Opened} {carried done reported : Moment σ} {within : List (Stay σ)}
    {departure : Option (Departure σ)}
    (hopen : Comes o (Passage.openEvent setup event parent).run (m.starting event parent) result
      carried)
    (hwithin : Tour setup o (.within event parent result) carried within (.ok ()) done)
    (hsettle : Comes o (Journey.settle setup event result).run done r reported)
    (hleft : ∀ d, departure = some d → d.left = reported) (hresult : result = .error mishap) :
    ∃ gone, Stay.Answers setup o ⟨⟨event, parent, result⟩, m, carried, within, departure⟩
      (.own mishap) carried gone reported := by
  subst hresult
  cases hwithin
  let stay : Stay σ := ⟨⟨event, parent, .error mishap⟩, m, carried, [], departure⟩
  have hbegun : stay.before.world.Later carried.world :=
    (Moment.later_starting _ _ _).trans hopen.later
  obtain ⟨gone, hgone, hlater, hgives⟩ := comes_givesUp hnot hopen
  exact ⟨gone, {
    begun := (Moment.later_starting _ _ _).trans hlater
    given := .inr hgone
    report := ⟨r, hsettle⟩
    leaves := hleft
    reason := fun hgoes => Stay.answered_of_givesUp (hgives (hsettle.later.goes hgoes))
      (Moment.later_starting _ _ _) hsettle hbegun }⟩

/-- An event that has failed in what restores the context after its children is blamed or excused. -/
theorem Tour.answers_after {mishap : Mishap} {result : Except Mishap Opened}
    {carried done failed reported : Moment σ} {within : List (Stay σ)}
    {departure : Option (Departure σ)}
    (hopen : Comes o (Passage.openEvent setup event parent).run (m.starting event parent) result
      carried)
    (hwithin : Tour setup o (.within event parent result) carried within (.ok ()) done)
    (hsettle : Comes o (Journey.settle setup event result).run done r reported)
    (hleft : ∀ d, departure = some d → d.left = reported) (hresult : result = .ok opened)
    (hrestore : Comes o (Passage.restore setup opened.restore).run done (.error mishap) failed) :
    ∃ gone, Stay.Answers setup o ⟨⟨event, parent, result⟩, m, carried, within, departure⟩
      (.own mishap) failed gone reported := by
  subst hresult
  let stay : Stay σ := ⟨⟨event, parent, .ok opened⟩, m, carried, within, departure⟩
  have hdone : stay.before.world.Later done.world :=
    (Moment.later_starting _ _ _).trans (hopen.later.trans hwithin.later)
  have hbegun : stay.before.world.Later failed.world := hdone.trans hrestore.later
  have hreport : Comes o (Journey.report event (.own mishap)).run failed r reported := by
    obtain ⟨_, hok, -⟩ | ⟨mishap', failed', hrestore', hreport⟩ := hsettle.settled
    · cases (hrestore.unique hok).1
    · obtain ⟨heq, rfl⟩ := hrestore.unique hrestore'
      cases heq
      exact hreport
  refine ⟨failed.world, hbegun, .inl rfl, ⟨r, hreport⟩, hleft, fun hgoes => ?_⟩
  obtain ⟨c, asked, e, hasked, hcalled, hmishap⟩ := hrestore.of_leads
    (passes_restore_called opened.restore) (hreport.later.goes hgoes)
  subst hmishap
  have hgives : stay.event.GivesUp o done.world (.ofBrowser e) failed.world :=
    (Event.GivesUp.ofBrowser hcalled).earlier hasked
  exact Stay.answered_of_givesUp hgives hdone hreport hbegun

/-- An event that has been ended by the loss of the browser within it is blamed there. -/
theorem Tour.answers_within {result : Except Mishap Opened} {e : Error}
    {carried halted reported : Moment σ} {within : List (Stay σ)}
    (hopen : Comes o (Passage.openEvent setup event parent).run (m.starting event parent) result
      carried)
    (hinner : Tour setup o (opened.inner.leg event.children parent) carried within (.error e) halted)
    (hreport : Comes o (Journey.report event (.halted e)).run halted r reported) :
    ∃ gone, Stay.Answers setup o ⟨⟨event, parent, result⟩, m, carried, within, .none⟩
      (.halted e) halted gone reported := by
  have hbegun : m.world.Later carried.world :=
    (Moment.later_starting _ _ _).trans hopen.later
  refine ⟨halted.world, hbegun.trans hinner.later, .inl rfl, ⟨r, hreport⟩,
    fun _ heq => (by cases heq), fun _ => .inl ?_⟩
  obtain ⟨inner, hmem, lost, w, hfails, hbefore, hw, hsaid⟩ :=
    hinner.spans (spans_betrays setup o) e rfl
  exact .within hmem hfails (hbegun.trans hbefore) hw hsaid

/-- What belongs to an event is not ended where the run has come through it. -/
theorem Tour.not_halted {result : Except Mishap Opened} {e : Error} {carried done halted : Moment σ}
    {within : List (Stay σ)} (hwithin : Tour setup o (.within event parent result) carried within r done)
    (hresult : result = .ok opened)
    (hinner : Tour setup o (opened.inner.leg event.children parent) carried stays (.error e) halted) :
    within = stays ∧ r = .error e ∧
      Comes o (Journey.report event (.halted e)).run halted r done := by
  subst hresult
  cases hwithin with
  | opened hinner' _ => cases (hinner'.unique hinner).2.1
  | halted hinner' hreport =>
    obtain ⟨rfl, he, rfl⟩ := hinner'.unique hinner
    cases he
    exact ⟨rfl, rfl, hreport⟩

/-- Every failure of an event on a tour is blamed or excused. -/
theorem Tour.answers (hnot : setup.Uncancelled o) {before : Moment σ}
    (h : Tour setup o (.single stay.event stay.visit.parent) before [stay] r m')
    (hfails : stay.Fails setup o failure m) :
    ∃ gone reported, stay.Answers setup o failure m gone reported ∧
      reported.world.Later m'.world := by
  obtain ⟨⟨event, parent, result⟩, before', carried, within, departure⟩ := stay
  cases h with
  | @finished _ _ _ _ _ done left _ _ hopen hwithin hsettle hfinish =>
    have hleft : ∀ d, some (⟨done, left, m'⟩ : Departure σ) = some d → d.left = left := by
      rintro _ ⟨⟩
      rfl
    cases hfails with
    | itself hresult =>
      obtain ⟨gone, hanswers⟩ := answers_itself hnot hopen hwithin hsettle hleft hresult
      exact ⟨gone, left, hanswers, hfinish.later⟩
    | within hresult hinner => cases (hwithin.not_halted hresult hinner).2.1
    | after hresult hwithin' hrestore =>
      obtain ⟨-, -, rfl⟩ := hwithin.unique hwithin'
      obtain ⟨gone, hanswers⟩ := answers_after hopen hwithin hsettle hleft hresult hrestore
      exact ⟨gone, left, hanswers, hfinish.later⟩
  | lost hopen hwithin hsettle =>
    have hleft : ∀ d, (.none : Option (Departure σ)) = some d → d.left = m' := by
      intro _ heq
      cases heq
    cases hfails with
    | itself hresult =>
      obtain ⟨gone, hanswers⟩ := answers_itself hnot hopen hwithin hsettle hleft hresult
      exact ⟨gone, m', hanswers, .refl _⟩
    | within hresult hinner => cases (hwithin.not_halted hresult hinner).2.1
    | after hresult hwithin' hrestore =>
      obtain ⟨-, -, rfl⟩ := hwithin.unique hwithin'
      obtain ⟨gone, hanswers⟩ := answers_after hopen hwithin hsettle hleft hresult hrestore
      exact ⟨gone, m', hanswers, .refl _⟩
  | unwound hopen hwithin =>
    cases hfails with
    | itself hresult =>
      cases hresult
      cases hwithin
    | within hresult hinner =>
      obtain ⟨-, -, hreport⟩ := hwithin.not_halted hresult hinner
      obtain ⟨gone, hanswers⟩ := answers_within hopen hinner hreport
      exact ⟨gone, m', hanswers, .refl _⟩
    | after hresult hwithin' _ => cases (hwithin.unique hwithin').2.1

end Tours

/-! ## Failures of a run -/

/-- What has been told as a fault spoils the counts of all reports from then on. -/
theorem World.not_passed_of_fault {w w' : World σ} {report : Report} (hfault : report.IsFault)
    (hlater : (w.say (.report report)).Later w') : w'.summary.passed = false := by
  have hmem : report ∈ w'.reports := by
    rw [World.reports_eq, List.mem_reverse, List.mem_filterMap]
    exact ⟨_, hlater.history.subset (List.mem_cons_self ..), rfl⟩
  have haccuses : report.Accuses := by
    cases hfault with
    | error message => exact .error message
    | exception message cause => exact .exception message cause
  exact Bool.eq_false_iff.2 fun hpassed => (Summary.passed_ofReports _).1 hpassed report hmem haccuses

section Runs

variable {calendar : Calendar} {stopAt : Option Duration} {events : List Event} {outside : σ}
  {ended : Ended σ}

/-- A failure for which an event is blamed spoils the counts. -/
theorem Stay.Answers.not_passed {stay : Stay σ} {failure : Failure} {m reported : Moment σ}
    {gone w : World σ} (h : stay.Answers setup o failure m gone reported)
    (hlater : reported.world.Later w) (hblamed : stay.Blamed setup o gone reported.world failure) :
    w.summary.passed = false := by
  have hgone : gone.Later w := by
    obtain ⟨_, hreport⟩ := h.report
    refine World.Later.trans ?_ (hreport.later.trans hlater)
    obtain hgiven | hgiven := h.given <;> rw [hgiven]
    · exact .refl gone
    · exact World.later_tell gone _
  cases hblamed with
  | before message _ htold =>
    rw [htold] at hgone
    exact World.not_passed_of_fault (.error message) hgone
  | reported hfault _ htold =>
    rw [htold] at hlater
    exact World.not_passed_of_fault hfault hlater
  | within _ _ _ _ hsaid =>
    exact World.not_passed_of_fault (.exception _ _) (hsaid.trans hgone)

/-- No failure of an event on a run is kept silent about. -/
structure FailuresTold (course : Course setup o calendar stopAt events outside ended)
    (stays : List (Stay σ)) : Prop where
  toured : Toured course stays
  answers : ∀ stay ∈ Stay.allOf stays, ∀ failure m, stay.Fails setup o failure m →
    ∃ gone reported, stay.Answers setup o failure m gone reported ∧
      reported.world.Later ended.world ∧
      (stay.Blamed setup o gone reported.world failure → ended.world.summary.passed = false)

/-- **No failure passes in silence.** Each event of a run that fails, in whatever way, is told of with
an error or an exception before it finishes, and the counts of the test are spoiled, unless none is
due: the target of the event is missing or hidden and it is not required, or its element is absent as
it expects. This is as long as the run has not been stopped, and for plugins and a loader that do not
answer with a cancellation. -/
theorem failuresTold_of_run (hrun : setup.run o calendar stopAt events outside = some ended)
    (hnot : setup.Uncancelled o) :
    ∃ (course : Course setup o calendar stopAt events outside ended) (stays : List (Stay σ)),
      FailuresTold course stays := by
  obtain ⟨course⟩ := exists_course hrun
  obtain ⟨stays, htoured⟩ := course.toured
  refine ⟨course, stays, htoured, fun stay hmem failure m hfails => ?_⟩
  obtain ⟨_, -, htour⟩ := htoured.tour
  obtain ⟨r, m', hsingle, -, hend⟩ := htour.single_between hmem
  obtain ⟨gone, reported, hanswers, hlater⟩ := hsingle.answers hnot hfails
  have hended : reported.world.Later ended.world :=
    hlater.trans (hend.trans (course.later_after.trans course.later_end))
  exact ⟨gone, reported, hanswers, hended, hanswers.not_passed hended⟩

theorem failuresTold_switchingRun : ∃ ended, Setup.small.run .tabs ⟨2020, 1, 1, 0, 0, 0⟩ none
      switchingEvents ⟨["main", "other"], "main", []⟩ = some ended ∧
    Setup.small.Uncancelled .tabs ∧ ended.world.isStopped = false ∧
    ended.world.summary.passed = false ∧
    ∃ (course : Course .small .tabs ⟨2020, 1, 1, 0, 0, 0⟩ none switchingEvents
        ⟨["main", "other"], "main", []⟩ ended) (stays : List (Stay Tabs)),
      FailuresTold course stays := by
  have hshown : (Setup.small.run .tabs ⟨2020, 1, 1, 0, 0, 0⟩ none switchingEvents
      ⟨["main", "other"], "main", []⟩).map (fun ended => (ended.world.isStopped,
        ended.world.summary.passed)) = some (false, false) := by
    decide +kernel
  obtain ⟨ended, hrun, hshown⟩ := Option.map_eq_some_iff.1 hshown
  rw [Prod.mk.injEq] at hshown
  have hnot : Setup.small.Uncancelled .tabs := by
    refine ⟨fun r hmem => (by cases hmem), ?_⟩
    rintro path ⟨s, s', hends⟩
    cases hends
  exact ⟨ended, hrun, hnot, hshown.1, hshown.2, failuresTold_of_run hrun hnot⟩

end Runs
end PageScript
