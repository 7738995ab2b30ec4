import Mathlib.Data.List.Chain
import PageScript.Proofs.LossOutcome
import PageScript.Proofs.RunTours

/-!
# Starts and finishes

The starts and the finishes of events stand in a history like brackets. Each finish is that of the
most recent start that is still open, and what belongs to an event stands between its own two. A run
that keeps the browser leaves nothing open, however it is stopped. A run that loses it leaves open
the event that has lost it, itself or in what restores the context after its children, and the events
around that one.

`Reads` goes through brackets with the events that are open, the most recent first. The brackets of a
tour are those of its stays, whose departures close them; that a stay is left open is passed on from
the event that has lost the browser to the events around it.
-/

namespace PageScript

variable {σ : Type}

/-- The start or the finish of an event. -/
inductive Bracket where
  | start (event : Event)
  | finish (event : Event)

def Happening.bracket? : Happening → Option Bracket
  | .stage (.started event _) => some (.start event)
  | .stage (.finished event _) => some (.finish event)
  | _ => none

/-- The starts and finishes that a history tells of, in order. -/
def brackets (history : List Happening) : List Bracket :=
  history.reverse.filterMap Happening.bracket?

/-- Brackets in order lead from the events that are open to others, the most recent first. -/
inductive Reads : List Event → List Bracket → List Event → Prop where
  | nil (way : List Event) : Reads way [] way
  | start {event : Event} {way way' : List Event} {bs : List Bracket} :
      Reads (event :: way) bs way' → Reads way (.start event :: bs) way'
  | finish {event : Event} {way way' : List Event} {bs : List Bracket} :
      Reads way bs way' → Reads (event :: way) (.finish event :: bs) way'

theorem Reads.append {way way' way'' : List Event} {bs bs' : List Bracket} (h : Reads way bs way')
    (h' : Reads way' bs' way'') : Reads way (bs ++ bs') way'' := by
  induction h with
  | nil => exact h'
  | start _ ih => exact .start (ih h')
  | finish _ ih => exact .finish (ih h')

/-- The events that are open after brackets, from those that are open before. -/
def openAfter (way : List Event) : List Bracket → List Event
  | [] => way
  | .start event :: bs => openAfter (event :: way) bs
  | .finish _ :: bs => openAfter way.tail bs

/-- Brackets lead from some open events to others in one way only. -/
theorem Reads.eq_openAfter {way way' : List Event} {bs : List Bracket} (h : Reads way bs way') :
    way' = openAfter way bs := by
  induction h with
  | nil => rfl
  | start _ ih => exact ih
  | finish _ ih => exact ih

namespace Stay

mutual

/-- The start and the finish of a stay, and between them those of the stays within it. -/
def brackets : Stay σ → List Bracket
  | ⟨visit, _, _, within, departure⟩ =>
    .start visit.event :: (bracketsOf within ++ if departure.isSome then [.finish visit.event] else [])

def bracketsOf : List (Stay σ) → List Bracket
  | [] => []
  | stay :: stays => stay.brackets ++ bracketsOf stays

end

mutual

/-- The stays that have no departure, the innermost first. -/
def pending : Stay σ → List (Stay σ)
  | stay@⟨_, _, _, within, departure⟩ =>
    if departure.isSome then [] else pendingOf within ++ [stay]

def pendingOf : List (Stay σ) → List (Stay σ)
  | [] => []
  | stay :: stays => stay.pending ++ pendingOf stays

end

section Lists

variable (stay : Stay σ) (stays stays' : List (Stay σ))

theorem brackets_eq : stay.brackets = .start stay.event ::
    (bracketsOf stay.within ++ if stay.departure.isSome then [.finish stay.event] else []) := by
  cases stay
  rw [brackets]
  rfl

theorem pending_eq : stay.pending =
    if stay.departure.isSome then [] else pendingOf stay.within ++ [stay] := by
  cases stay
  rw [pending]

theorem bracketsOf_append :
    bracketsOf (stays ++ stays') = bracketsOf stays ++ bracketsOf stays' := by
  induction stays with
  | nil => rw [bracketsOf, List.nil_append, List.nil_append]
  | cons stay stays ih => rw [List.cons_append, bracketsOf, bracketsOf, ih, List.append_assoc]

theorem pendingOf_append : pendingOf (stays ++ stays') = pendingOf stays ++ pendingOf stays' := by
  induction stays with
  | nil => rw [pendingOf, List.nil_append, List.nil_append]
  | cons stay stays ih => rw [List.cons_append, pendingOf, pendingOf, ih, List.append_assoc]

@[simp] theorem bracketsOf_singleton : bracketsOf [stay] = stay.brackets := by
  rw [bracketsOf, bracketsOf, List.append_nil]

@[simp] theorem pendingOf_singleton : pendingOf [stay] = stay.pending := by
  rw [pendingOf, pendingOf, List.append_nil]

end Lists

/-- The brackets of a stay stand together among those of the stays around it. -/
theorem isInfix_bracketsOf {stay : Stay σ} (stays : List (Stay σ)) (h : stay ∈ allOf stays) :
    stay.brackets <:+: bracketsOf stays := by
  match stays with
  | [] => cases h
  | ⟨visit, before, carried, within, departure⟩ :: stays =>
    rw [allOf, all, List.mem_append, List.mem_cons] at h
    rw [bracketsOf]
    rcases h with (rfl | hwithin) | hlater
    · exact (List.prefix_append _ _).isInfix
    · have hinner : bracketsOf within <:+: brackets ⟨visit, before, carried, within, departure⟩ := by
        rw [brackets]
        exact (List.prefix_append _ _).isInfix.trans (List.suffix_cons _ _).isInfix
      exact (isInfix_bracketsOf within hwithin).trans (hinner.trans (List.prefix_append _ _).isInfix)
    · exact (isInfix_bracketsOf stays hlater).trans (List.suffix_append _ _).isInfix

/-- The event has lost the browser, itself or in what restores the context after its children. -/
def Loses (setup : Setup) (o : Outside σ) (stay : Stay σ) (e : Error) : Prop :=
  stay.visit.result = .error (.lost e) ∨ ∃ (opened : Opened) (done m' : Moment σ),
    stay.visit.result = .ok opened ∧
    Tour setup o (.within stay.event stay.visit.parent stay.visit.result) stay.carried stay.within
      (.ok ()) done ∧
    Stretch.Comes o (Passage.restore setup opened.restore).run done (.error (.lost e)) m'

/-- The stays that are left open: one in which the browser is lost, all of whose own are closed, and
the ones around it. -/
structure Trail (setup : Setup) (o : Outside σ) (e : Error) (stays : List (Stay σ)) (inner : Stay σ)
    (outer : List (Stay σ)) : Prop where
  pending_eq : pendingOf stays = inner :: outer
  loses : inner.Loses setup o e
  closed : pendingOf inner.within = []
  /-- Each stay lies directly within the next one. -/
  chain : (inner :: outer).IsChain fun a b => a ∈ b.within
  outermost : ∃ last ∈ stays, (inner :: outer).getLast? = some last

end Stay

/-! ## What a history tells of starts and finishes -/

section Histories

variable {h : Happening} {past : List Happening}

theorem brackets_cons (hnone : h.bracket? = none) : brackets (h :: past) = brackets past := by
  simp [brackets, hnone]

theorem brackets_cons_some {b : Bracket} (hsome : h.bracket? = some b) :
    brackets (h :: past) = brackets past ++ [b] := by
  simp [brackets, hsome]

theorem bracket?_aside (haside : h.Aside) : h.bracket? = none := by
  rcases haside with hpassing | _ | ⟨-, hplugin⟩
  · unfold Happening.bracket?
    split <;> first | cases hpassing | rfl
  · rfl
  · cases hplugin <;> rfl

theorem bracket?_telling (htelling : Journey.Telling h) : h.bracket? = none := by
  cases htelling with
  | failed event failure => rfl
  | remark r => exact bracket?_aside (.passing (passing_remark r))

theorem bracket?_settling (hsettling : Journey.Settling h) : h.bracket? = none := by
  cases hsettling with
  | aside haside => exact bracket?_aside haside
  | telling htelling => exact bracket?_telling htelling

theorem bracket?_closing (hclosing : h.Closing) : h.bracket? = none := by
  rcases hclosing with hpassing | _ | hplugin
  · exact bracket?_aside (.passing hpassing)
  · rfl
  · cases hplugin <;> rfl

theorem World.Adds.brackets_eq {C : Happening → Prop} {w w' : World σ} (h : w.Adds C w')
    (hnone : ∀ h, C h → h.bracket? = none) : brackets w'.history = brackets w.history :=
  h.keeps (P := fun past => brackets past = brackets w.history)
    (fun new _ hC hpast => (brackets_cons (hnone new hC)).trans hpast) rfl

end Histories

/-! ## The brackets of a tour -/

section Tours

variable {setup : Setup} {o : Outside σ} {event : Event} {parent : Option Element} {m m' : Moment σ}

theorem brackets_openEvent {result : Except Mishap Opened}
    (h : Stretch.Comes o (Passage.openEvent setup event parent).run (m.starting event parent) result
      m') : brackets m'.world.history = brackets m.world.history ++ [.start event] := by
  have hkept : Kept o fun w : World σ =>
      brackets w.history = brackets m.world.history ++ [.start event] :=
    World.kept_of_asides (P := fun past => brackets past = _) fun new past haside hpast =>
      (brackets_cons (bracket?_aside haside)).trans hpast
  refine h.of_leads (Q := fun _ _ w' => brackets w'.history = _) (hkept.openEvent ?_ ?_ _ _ ?_)
  · exact fun w d hw => (brackets_cons rfl).trans hw
  · exact fun w event result hw => (brackets_cons rfl).trans hw
  · exact (brackets_cons rfl).trans (brackets_cons_some rfl)

theorem brackets_finish {element : Option Element}
    (h : Stretch.Comes o (Journey.finish setup event element).run m (.ok ()) m') :
    brackets m'.world.history = brackets m.world.history ++ [.finish event] := by
  have htold : brackets (m.world.pulse.tell (.stage (.finished event element))).history =
      brackets m.world.history ++ [.finish event] := by
    have hpulse : brackets m.world.pulse.history = brackets m.world.history := brackets_cons rfl
    exact (brackets_cons_some rfl).trans (congrArg (· ++ _) hpulse)
  have hadds := (h.of_leads (Journey.adds_finish event element)).2
  exact (hadds.brackets_eq fun _ => bracket?_aside).trans htold

/-- A history tells of the starts and finishes of the stays that are made on a tour. -/
theorem spans_brackets (setup : Setup) (o : Outside σ) : Tour.Spans setup o fun m stays _ m' =>
    brackets m'.world.history = brackets m.world.history ++ Stay.bracketsOf stays where
  refl m := (List.append_nil _).symm
  trans hhere hlater _ _ := by
    rw [hlater, hhere, Stay.bracketsOf_append, List.append_assoc]
  skips _ := (brackets_cons rfl).trans (List.append_nil _).symm
  row _ _ h := by
    rw [Moment.entering] at h
    exact h.trans (congrArg (· ++ _) (brackets_cons rfl))
  halts h hreport := by
    have hadds := hreport.of_leads (Journey.adds_report _ _)
    exact (hadds.brackets_eq fun _ => bracket?_telling).trans h
  finishes {m event parent result carried within done left after} hopen _ h hsettle hfinish := by
    have hadds := hsettle.of_leads (Journey.adds_settle event result)
    have hleft := hadds.brackets_eq fun _ => bracket?_settling
    rw [brackets_finish hfinish, hleft, h, brackets_openEvent hopen, Stay.bracketsOf_singleton,
      Stay.brackets_eq]
    simp [Stay.event]
  loses {m event parent result carried within done e m'} hopen _ h hsettle := by
    have hadds := hsettle.of_leads (Journey.adds_settle event result)
    have hleft := hadds.brackets_eq fun _ => bracket?_settling
    rw [hleft, h, brackets_openEvent hopen, Stay.bracketsOf_singleton, Stay.brackets_eq]
    simp [Stay.event]
  unwinds {m event parent result carried within e m'} hopen _ h := by
    rw [h, brackets_openEvent hopen, Stay.bracketsOf_singleton, Stay.brackets_eq]
    simp [Stay.event]

/-! ## What is left open -/

section Losses

variable {s : Session} {w : World σ} {e : Error}

theorem loses_report (event : Event) (mishap : Mishap) :
    Stretch.Leads o (Journey.report event (.own mishap)).run s w fun r _ w' =>
      ∀ e, r = .error e → mishap = .lost e ∧ .stage (.failed event (.lost e)) ∈ w'.history := by
  refine (Journey.leads_report event (.own mishap)).mono fun _ _ _ h e heq => ?_
  cases h with
  | own => cases heq
  | lost e r =>
    cases heq
    exact ⟨rfl, by simp⟩

/-- An event is settled with an error only if it has lost the browser. -/
theorem loses_settle (event : Event) (result : Except Mishap Opened) :
    Stretch.Leads o (Journey.settle setup event result).run s w fun r _ w' => ∀ e, r = .error e →
      .stage (.failed event (.lost e)) ∈ w'.history ∧ (result = .error (.lost e) ∨
        ∃ (opened : Opened) (m' : Moment σ), result = .ok opened ∧
          Stretch.Comes o (Passage.restore setup opened.restore).run ⟨s, w⟩ (.error (.lost e)) m') := by
  cases result with
  | error mishap =>
    refine (loses_report event mishap).mono fun r _ w' h e heq => ?_
    obtain ⟨rfl, hmem⟩ := h e heq
    exact ⟨hmem, .inl rfl⟩
  | ok opened =>
    refine Journey.leads_settle ((Stretch.leads_comes _).mono fun result s₁ w₁ hrestore => ?_)
    cases result with
    | ok _ => exact fun _ heq => by cases heq
    | error mishap =>
      refine (loses_report event mishap).mono fun r _ w' h e heq => ?_
      obtain ⟨rfl, hmem⟩ := h e heq
      exact ⟨hmem, .inr ⟨opened, ⟨s₁, w₁⟩, rfl, hrestore⟩⟩

end Losses

namespace Stay

variable {e : Error} {inner : Stay σ} {outer here later : List (Stay σ)}

theorem Trail.append (h : Trail setup o e later inner outer) (hhere : pendingOf here = []) :
    Trail setup o e (here ++ later) inner outer := by
  obtain ⟨last, hlast, heq⟩ := h.outermost
  exact { h with
    pending_eq := by rw [pendingOf_append, hhere, List.nil_append, h.pending_eq]
    outermost := ⟨last, List.mem_append_right here hlast, heq⟩ }

/-- The stay around a stay that is left open is left open as well. -/
theorem Trail.around {stay : Stay σ} (h : Trail setup o e stay.within inner outer)
    (hopen : stay.departure = none) : Trail setup o e [stay] inner (outer ++ [stay]) where
  pending_eq := by
    rw [pendingOf_singleton, Stay.pending_eq, hopen]
    exact congrArg (· ++ [stay]) h.pending_eq
  loses := h.loses
  closed := h.closed
  chain := by
    obtain ⟨last, hlast, heq⟩ := h.outermost
    rw [← List.cons_append, List.isChain_append]
    refine ⟨h.chain, .singleton stay, ?_⟩
    intro a ha b hb
    rw [heq] at ha
    cases ha
    cases hb
    exact hlast
  outermost := by
    refine ⟨stay, List.mem_singleton_self stay, ?_⟩
    rw [← List.cons_append]
    exact List.getLast?_concat

end Stay

/-- The brackets of a tour are read from any events on; a tour that is not ended by the loss of the
browser leaves nothing open, and one that is leaves open a trail of stays. -/
structure Tour.Nests (setup : Setup) (o : Outside σ) (stays : List (Stay σ))
    (r : Except Error Unit) (m' : Moment σ) : Prop where
  reads : ∀ way, Reads way (Stay.bracketsOf stays) ((Stay.pendingOf stays).map Stay.event ++ way)
  closed : r = .ok () → Stay.pendingOf stays = []
  trail : ∀ e, r = .error e → ∃ inner outer, Stay.Trail setup o e stays inner outer ∧
    .stage (.failed inner.event (.lost e)) ∈ m'.world.history

theorem Stay.reads_pending {stay : Stay σ} (hopen : stay.departure = none)
    (h : ∀ way, Reads way (bracketsOf stay.within) ((pendingOf stay.within).map Stay.event ++ way))
    (way : List Event) :
    Reads way (bracketsOf [stay]) ((pendingOf [stay]).map Stay.event ++ way) := by
  rw [bracketsOf_singleton, pendingOf_singleton, brackets_eq, pending_eq, hopen]
  have hwithin := h (stay.event :: way)
  refine .start ?_
  simpa using hwithin

theorem spans_nests (setup : Setup) (o : Outside σ) : Tour.Spans setup o fun _ stays r m' =>
    Tour.Nests setup o stays r m' where
  refl m := ⟨fun way => .nil way, fun _ => rfl, fun _ heq => by cases heq⟩
  trans {m m₁ m' here later r} hhere hlater _ _ := by
    have hclosed := hhere.closed rfl
    refine ⟨fun way => ?_, fun hr => ?_, fun e hr => ?_⟩
    · have hfirst := hhere.reads way
      rw [hclosed] at hfirst
      rw [Stay.bracketsOf_append, Stay.pendingOf_append, hclosed]
      exact hfirst.append (hlater.reads way)
    · rw [Stay.pendingOf_append, hclosed, hlater.closed hr, List.nil_append]
    · obtain ⟨inner, outer, htrail, hmem⟩ := hlater.trail e hr
      exact ⟨inner, outer, htrail.append hclosed, hmem⟩
  skips _ := ⟨fun way => .nil way, fun _ => rfl, fun _ heq => by cases heq⟩
  row _ _ h := ⟨h.reads, h.closed, h.trail⟩
  halts h hreport := by
    refine ⟨h.reads, fun heq => (by cases heq), fun e heq => ?_⟩
    obtain ⟨inner, outer, htrail, hmem⟩ := h.trail e heq
    exact ⟨inner, outer, htrail, hreport.later.history.subset hmem⟩
  finishes {m event parent result carried within done left after} _ _ h _ _ := by
    -- what is within has closed all that it has opened, so the event closes itself
    have hclosed := h.closed rfl
    refine ⟨fun way => ?_, fun _ => ?_, fun _ heq => by cases heq⟩
    · have hwithin := h.reads (event :: way)
      rw [hclosed] at hwithin
      rw [Stay.bracketsOf_singleton, Stay.pendingOf_singleton, Stay.brackets_eq, Stay.pending_eq]
      exact .start (hwithin.append (.finish (.nil way)))
    · rw [Stay.pendingOf_singleton, Stay.pending_eq]
      rfl
  loses {m event parent result carried within done e m'} _ hwithin h hsettle := by
    have hclosed := h.closed rfl
    refine ⟨Stay.reads_pending rfl h.reads, fun heq => (by cases heq), fun e' heq => ?_⟩
    -- the event itself has lost the browser: it is the innermost of those left open
    obtain ⟨hmem, hloses⟩ := hsettle.of_leads (loses_settle event result) e' heq
    refine ⟨_, [], ⟨?_, ?_, hclosed, .singleton _, ⟨_, List.mem_singleton_self _, rfl⟩⟩, hmem⟩
    · rw [Stay.pendingOf_singleton, Stay.pending_eq, hclosed]
      rfl
    · rcases hloses with heq | ⟨opened, m₁, heq, hrestore⟩
      · exact .inl heq
      · exact .inr ⟨opened, done, m₁, heq, hwithin, hrestore⟩
  unwinds {m event parent result carried within e m'} _ _ h := by
    refine ⟨Stay.reads_pending rfl h.reads, fun heq => (by cases heq), fun e' heq => ?_⟩
    obtain ⟨inner, outer, htrail, hmem⟩ := h.trail e' heq
    exact ⟨inner, _, htrail.around rfl, hmem⟩

end Tours

/-! ## Whole runs -/

section Runs

variable {setup : Setup} {o : Outside σ} {calendar : Calendar} {stopAt : Option Duration}
  {events : List Event} {outside : σ} {ended : Ended σ}

/-- The starts and finishes of a run are well nested. -/
structure Nested (course : Course setup o calendar stopAt events outside ended)
    (stays : List (Stay σ)) : Prop where
  toured : Toured course stays
  /-- The history tells of those of the stays, one after another and one within another. -/
  brackets_eq : brackets ended.world.history = Stay.bracketsOf stays
  /-- What belongs to an event stands between its own start and finish. -/
  together : ∀ stay ∈ Stay.allOf stays, stay.brackets <:+: brackets ended.world.history
  /-- To what belongs to an event belong the rows of a table, each with all the children, and the
  events of an included script. -/
  inner : ∀ stay ∈ Stay.allOf stays, ∀ opened, stay.visit.result = .ok opened →
    ∃ inner below r m', stay.within = inner ++ below ∧
      Tour setup o (opened.inner.leg stay.event.children stay.visit.parent) stay.carried inner r m'
  /-- Each finish is that of the most recent start that is still open. -/
  reads : Reads [] (brackets ended.world.history) ((Stay.pendingOf stays).map Stay.event)
  closed : ¬ Lost ended.world.history → Stay.pendingOf stays = []
  /-- A run that has lost the browser leaves open the event that has lost it and those around it. -/
  trail : Lost ended.world.history → ∃ e inner outer, Stay.Trail setup o e stays inner outer ∧
    .stage (.failed inner.event (.lost e)) ∈ ended.world.history

theorem Tour.inner_of_mem {leg : Leg} {m m' : Moment σ} {stays : List (Stay σ)}
    {r : Except Error Unit} (h : Tour setup o leg m stays r m') {stay : Stay σ}
    (hmem : stay ∈ Stay.allOf stays) {opened : Opened} (hopened : stay.visit.result = .ok opened) :
    ∃ inner below r m', stay.within = inner ++ below ∧
      Tour setup o (opened.inner.leg stay.event.children stay.visit.parent) stay.carried inner r
        m' := by
  have hwithin {event : Event} {parent : Option Element} {result : Except Mishap Opened}
      {carried done : Moment σ} {within : List (Stay σ)} {r : Except Error Unit}
      (hresult : result = .ok opened)
      (h : Tour setup o (.within event parent result) carried within r done) :
      ∃ inner below r m', within = inner ++ below ∧
        Tour setup o (opened.inner.leg event.children parent) carried inner r m' := by
    subst hresult
    cases h with
    | opened hinner _ => exact ⟨_, _, _, _, rfl, hinner⟩
    | halted hinner _ => exact ⟨_, [], _, _, (List.append_nil _).symm, hinner⟩
  obtain ⟨r, m', hsingle⟩ := h.single_of_mem hmem
  obtain ⟨⟨event, parent, result⟩, before, carried, within, departure⟩ := stay
  cases hsingle with
  | finished _ h _ _ => exact hwithin hopened h
  | lost _ h _ => exact hwithin hopened h
  | unwound _ h => exact hwithin hopened h

/-- **The starts and finishes of every run are well nested**, whatever stops it; only the loss of the
browser leaves some of them open. -/
theorem nested_of_run (hrun : setup.run o calendar stopAt events outside = some ended) :
    ∃ (course : Course setup o calendar stopAt events outside ended) (stays : List (Stay σ)),
      Nested course stays := by
  obtain ⟨course⟩ := exists_course hrun
  obtain ⟨stays, htoured⟩ := course.toured
  obtain ⟨begun, hbegun, htour⟩ := htoured.tour
  have hopened := (adds_opened setup calendar stopAt events outside).brackets_eq fun _ h =>
    bracket?_aside (.passing h)
  have hbefore := (hbegun.of_leads Journey.adds_begin).brackets_eq fun _ => bracket?_aside
  have hevents := htour.spans (spans_brackets setup o)
  have hplugins := course.adds_plugins.brackets_eq fun _ => bracket?_closing
  have hend := course.adds_end.brackets_eq fun _ h => bracket?_aside (.passing h)
  have hbrackets : brackets ended.world.history = Stay.bracketsOf stays := by
    rw [hend, hplugins, hevents, hbefore, hopened]
    rfl
  have hnests := htour.spans (spans_nests setup o)
  refine ⟨course, stays, ?_⟩
  exact {
    toured := htoured
    brackets_eq := hbrackets
    together := by
      intro stay hmem
      rw [hbrackets]
      exact Stay.isInfix_bracketsOf stays hmem
    inner := by
      intro stay hmem opened hresult
      exact htour.inner_of_mem hmem hresult
    reads := by
      have hreads := hnests.reads []
      rwa [List.append_nil, ← hbrackets] at hreads
    closed := by
      intro hkept
      exact hnests.closed (course.result_eq_ok_iff.2 hkept)
    trail := by
      intro hlost
      cases hresult : course.result with
      | ok _ => exact absurd hlost (course.result_eq_ok_iff.1 hresult)
      | error e =>
        obtain ⟨inner, outer, htrail, hmem⟩ := hnests.trail e hresult
        have hlater := (course.later_after.trans course.later_end).history
        exact ⟨e, inner, outer, htrail, hlater.subset hmem⟩ }

/-- In a run that loses the browser in a row of an included table, the events around it are left
open. -/
theorem nested_losingRun : ∃ ended, Setup.sleepy.run .losing ⟨2020, 1, 1, 0, 0, 0⟩ none
      includingEvents () = some ended ∧ Lost ended.world.history ∧
    ∃ (course : Course .sleepy .losing ⟨2020, 1, 1, 0, 0, 0⟩ none includingEvents () ended)
      (stays : List (Stay Unit)), Nested course stays ∧
        (Stay.pendingOf stays).map (·.event.name) = ["div", "csv", "script"] := by
  have hshown : (Setup.sleepy.run .losing ⟨2020, 1, 1, 0, 0, 0⟩ none includingEvents ()).map
      (fun ended => ((losses ended.world.history).length,
        (openAfter [] (brackets ended.world.history)).map (·.name))) =
      some (1, ["div", "csv", "script"]) := by decide +kernel
  obtain ⟨ended, hrun, hshown⟩ := Option.map_eq_some_iff.1 hshown
  rw [Prod.mk.injEq] at hshown
  obtain ⟨hlosses, hnames⟩ := hshown
  have hlost : Lost ended.world.history := by
    refine lost_iff.2 fun hnil => ?_
    rw [hnil] at hlosses
    cases hlosses
  obtain ⟨course, stays, hnested⟩ := nested_of_run hrun
  refine ⟨ended, hrun, hlost, course, stays, hnested, ?_⟩
  rw [← hnested.reads.eq_openAfter, List.map_map] at hnames
  exact hnames

end Runs
end PageScript
