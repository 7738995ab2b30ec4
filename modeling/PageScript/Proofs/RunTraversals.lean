import PageScript.Proofs.RowRuns

/-!
# Runs as traversals

The reference for the order in which events run is a forest of stays. In a list of events there is one
stay in each of them, in order and below their parent. Within a stay there are those in all that belongs
to its event, and only if the event has been carried out. What belongs to a table event are its
children, once for each data row of the file that it has read; to an event that includes a script, the
events that it has loaded and then its own children; and to any other event its children. An event hands
on to its children the element that it has found. A table event hands on the parent it was given itself,
and so does an event that includes a script, to the events of the script.

A run that is neither stopped nor loses the browser makes a forest of this kind, and its history tells
of the starts in it from left to right, parents first. No rule of a tour but those of the reference
applies then, so this is an induction on the tour.
-/

namespace PageScript

variable {σ : Type} {o : Outside σ} {setup : Setup}

/-- The event names a script, and the outside answers with these events when it is loaded. -/
def Stay.Loads (setup : Setup) (o : Outside σ) (stay : Stay σ) (loaded : List Event) : Prop :=
  ∃ file outside, stay.event.file? setup stay.before.session = some file ∧
    (o (.loadScript (Act.path setup file)) stay.before.world.outside).ending =
      some (.ok loaded, outside)

/-- The outside answers with this element when the one that the event wants is looked for. -/
def Stay.Finds (setup : Setup) (o : Outside σ) (stay : Stay σ) (element : Element) : Prop :=
  ∃ outside, (o (.call (.find (stay.event.wanted setup stay.before.session.vars) stay.visit.parent
    setup.elementPatience)) stay.before.world.outside).ending = some (.ok element, outside)

/-! ## The reference -/

mutual

/-- The stays in a list of events below a parent. -/
inductive Traversal (setup : Setup) (o : Outside σ) :
    List Event → Option Element → List (Stay σ) → Prop where
  | nil (parent : Option Element) : Traversal setup o [] parent []
  | cons {event : Event} {events : List Event} {parent : Option Element} {stay : Stay σ}
      {stays : List (Stay σ)} : stay.visit.start = (event, parent) → Branch setup o stay →
      Traversal setup o events parent stays →
      Traversal setup o (event :: events) parent (stay :: stays)

/-- A stay with those in all that belongs to its event. -/
inductive Branch (setup : Setup) (o : Outside σ) : Stay σ → Prop where
  /-- A failed event contributes no descendant. -/
  | failed {stay : Stay σ} {mishap : Mishap} : stay.visit.result = .error mishap →
      stay.within = [] → Branch setup o stay
  /-- A table event runs its children for each data row of the file that it has read, below the parent
  it was given itself. -/
  | table {stay : Stay σ} {opened : Opened} {text : String} : stay.event.kind = .command .csv →
      stay.visit.result = .ok opened → stay.Reads setup o text →
      Rounds setup o stay.event.children stay.visit.parent
        (stay.event.rowsOf setup stay.before.session (Table.ofText text)) stay.within →
      Branch setup o stay
  /-- A table event that names the file of the next one runs nothing. -/
  | naming {stay : Stay σ} {opened : Opened} : stay.event.kind = .command .csv →
      stay.visit.result = .ok opened → (stay.event.actions.text? "override").isSome →
      stay.within = [] → Branch setup o stay
  /-- An event that includes a script runs the events that it has loaded below the parent it was given
  itself, and then its own children below none. -/
  | script {stay : Stay σ} {opened : Opened} {loaded : List Event} {inside below : List (Stay σ)} :
      stay.event.kind = .command .script → stay.visit.result = .ok opened →
      stay.Loads setup o loaded → stay.within = inside ++ below →
      Traversal setup o loaded stay.visit.parent inside →
      Traversal setup o stay.event.children none below → Branch setup o stay
  /-- Any other command runs its children below no parent, and so does a frame. -/
  | command {stay : Stay σ} {opened : Opened} {c : Command} : stay.event.kind = .command c →
      c ≠ .csv → c ≠ .script → stay.visit.result = .ok opened →
      Traversal setup o stay.event.children none stay.within → Branch setup o stay
  | frame {stay : Stay σ} {opened : Opened} : stay.event.kind = .frame →
      stay.visit.result = .ok opened →
      Traversal setup o stay.event.children none stay.within → Branch setup o stay
  /-- Any other event runs its children below the element that it has found. -/
  | element {stay : Stay σ} {opened : Opened} {element : Element} :
      stay.event.kind.can .needsElement = true → stay.visit.result = .ok opened →
      stay.Finds setup o element →
      Traversal setup o stay.event.children (some element) stay.within → Branch setup o stay

/-- The stays in the children of a table event, once for each row; a round begins with the cells of its
row in a scope of their own. -/
inductive Rounds (setup : Setup) (o : Outside σ) :
    List Event → Option Element → List Row → List (Stay σ) → Prop where
  | nil (children : List Event) (parent : Option Element) : Rounds setup o children parent [] []
  | cons {children : List Event} {parent : Option Element} {cells : Row} {rows : List Row}
      {here later : List (Stay σ)} :
      (∀ first, here.head? = some first → ∃ m : Moment σ, first.before = m.entering cells) →
      Traversal setup o children parent here → Rounds setup o children parent rows later →
      Rounds setup o children parent (cells :: rows) (here ++ later)

end

/-! ## Tours as traversals -/

/-- The stays in what comes before the children of an event. -/
def Inner.Follows (setup : Setup) (o : Outside σ) (children : List Event)
    (parent : Option Element) : Inner → List (Stay σ) → Prop
  | .nothing, stays => stays = []
  | .rows table, stays => Rounds setup o children parent table stays
  | .events loaded, stays => Traversal setup o loaded parent stays

/-- The stays of a part of a traversal in which nothing is left out. -/
def Leg.Follows (setup : Setup) (o : Outside σ) : Leg → List (Stay σ) → Prop
  | .single event parent, stays => ∃ stay, stays = [stay] ∧ stay.visit.start = (event, parent) ∧
      Branch setup o stay
  | .siblings events parent, stays => Traversal setup o events parent stays
  | .rows children parent table, stays => Rounds setup o children parent table stays
  | .within _ _ (.error _), stays => stays = []
  | .within event parent (.ok opened), stays => ∃ inside below, stays = inside ++ below ∧
      opened.inner.Follows setup o event.children parent inside ∧
      Traversal setup o event.lastChildren opened.element below

theorem Inner.follows_of_leg {inner : Inner} {children : List Event} {parent : Option Element}
    {stays : List (Stay σ)} (h : (inner.leg children parent).Follows setup o stays) :
    inner.Follows setup o children parent stays := by
  cases inner with
  | nothing =>
    cases h
    rfl
  | rows table => exact h
  | events loaded => exact h

theorem lastChildren_of_ne {event : Event} (hkind : event.kind ≠ .command .csv) :
    event.lastChildren = event.children := by
  have howns : event.kind.can .ownsChildren = false := by
    rcases hcase : event.kind with c | _ | _ | c
    · cases c <;> first | rfl | exact absurd hcase hkind
    · rfl
    · rfl
    · cases c <;> rfl
  rw [Event.lastChildren, Event.descends, howns]
  cases event.children <;> rfl

/-- What an event has left, and what has come of it, make up its branch. -/
theorem Opens.branch {stay : Stay σ} {opened : Opened}
    (h : Opens setup o stay.event stay.visit.parent stay.before.session stay.before.world.outside
      opened)
    (hresult : stay.visit.result = .ok opened)
    (hwithin : (Leg.within stay.event stay.visit.parent (.ok opened)).Follows setup o stay.within) :
    Branch setup o stay := by
  obtain ⟨inside, below, hstays, hinside, hbelow⟩ := hwithin
  -- all but a table event run their children in the end
  have hchildren (hkind : stay.event.kind ≠ .command .csv) :
      Traversal setup o stay.event.children opened.element below := by
    rwa [lastChildren_of_ne hkind] at hbelow
  have hnone (hkind : stay.event.kind = .command .csv) : below = [] := by
    rw [lastChildren_table hkind] at hbelow
    cases hbelow
    rfl
  cases h with
  | rows hkind hfile hread =>
    rw [hnone hkind, List.append_nil] at hstays
    refine .table hkind hresult ⟨_, _, hfile, hread⟩ ?_
    rw [hstays]
    exact hinside
  | noRows hkind hover =>
    rw [hnone hkind, List.append_nil] at hstays
    cases hinside
    exact .naming hkind hresult hover hstays
  | script hkind hfile hloaded =>
    exact .script hkind hresult ⟨_, _, hfile, hloaded⟩ hstays hinside
      (hchildren (by rw [hkind]; decide))
  | command c restore hkind hcsv hscript =>
    obtain rfl : inside = [] := hinside
    rw [List.nil_append] at hstays
    refine .command hkind hcsv hscript hresult ?_
    rw [hstays]
    exact hchildren (by rw [hkind]; simpa using hcsv)
  | frame hkind =>
    obtain rfl : inside = [] := hinside
    rw [List.nil_append] at hstays
    refine .frame hkind hresult ?_
    rw [hstays]
    exact hchildren (by rw [hkind]; decide)
  | element hcan hfound =>
    obtain rfl : inside = [] := hinside
    rw [List.nil_append] at hstays
    refine .element hcan hresult ⟨_, hfound⟩ ?_
    rw [hstays]
    refine hchildren fun hkind => ?_
    rw [hkind] at hcan
    cases hcan

/-- **A tour that is neither stopped nor ended by an error follows the reference.** -/
theorem Tour.follows_reference {leg : Leg} {m m' : Moment σ} {stays : List (Stay σ)} {r : Except Error Unit}
    (h : Tour setup o leg m stays r m') (hok : r = .ok ()) (hgoes : m'.world.isStopped = false) :
    leg.Follows setup o stays := by
  induction h with
  | none parent => exact .nil parent
  | noRow children parent => exact .nil children parent
  | failed => rfl
  | stopped hstop | stoppedRow hstop => exact absurd hstop (Bool.eq_false_iff.1 hgoes)
  | ended | endedRow | halted | lost | unwound => cases hok
  | next _ _ hlater ihhere ihlater =>
    obtain ⟨stay, rfl, hstart, hbranch⟩ := ihhere rfl (hlater.later.goes hgoes)
    exact .cons hstart hbranch (ihlater hok hgoes)
  | nextRow _ hhere _ hlater ihhere ihlater =>
    have hgoes₁ := hlater.later.goes hgoes
    exact .cons (fun first hfirst => ⟨_, hhere.before_head hfirst⟩) (ihhere rfl hgoes₁)
      (ihlater hok hgoes)
  | opened _ hbelow ihinner ihbelow =>
    exact ⟨_, _, rfl, Inner.follows_of_leg (ihinner rfl (hbelow.later.goes hgoes)),
      ihbelow hok hgoes⟩
  | @finished event parent result m _ _ _ _ _ hopen _ hsettle hfinish ih =>
    have hdone := ih rfl ((hsettle.later.trans hfinish.later).goes hgoes)
    refine ⟨_, rfl, rfl, ?_⟩
    cases result with
    | error mishap => exact .failed rfl hdone
    | ok opened =>
      have hopens := (hopen.of_leads (Stretch.visits_openEvent event parent)).2.2 opened rfl
      exact hopens.branch rfl hdone

/-! ## Runs -/

section Runs

variable {calendar : Calendar} {stopAt : Option Duration} {events : List Event} {outside : σ}
  {ended : Ended σ}

/-- A run has gone through all its events as the reference says, and its history tells of the starts in
this order and of no others. -/
structure Traversed (course : Course setup o calendar stopAt events outside ended)
    (stays : List (Stay σ)) : Prop extends Toured course stays where
  traversal : Traversal setup o events none stays

theorem Toured.traversed {course : Course setup o calendar stopAt events outside ended}
    {stays : List (Stay σ)} (h : Toured course stays) (hresult : course.result = .ok ())
    (hgoes : course.before.isStopped = false) : Traversed course stays := by
  obtain ⟨begun, -, htour⟩ := h.tour
  exact ⟨h, htour.follows_reference hresult hgoes⟩

/-- The events of a run that is completed are done, and the run has not been stopped. -/
theorem Course.done_of_completed (course : Course setup o calendar stopAt events outside ended)
    (hcompleted : ended.outcome = .completed) :
    course.result = .ok () ∧ course.before.isStopped = false := by
  have houtcome := course.outcome_eq
  rw [hcompleted, World.verdict] at houtcome
  split at houtcome
  · cases houtcome
  cases hresult : course.result with
  | error e =>
    rw [hresult] at houtcome
    cases houtcome
  | ok _ =>
    rw [hresult, World.outcome] at houtcome
    split at houtcome
    · cases houtcome
    · rename_i hafter
      exact ⟨rfl, Bool.eq_false_iff.2 fun h => hafter (course.later_after.stopped h)⟩

/-- **A run that is not stopped and does not lose the browser goes through all its events in the
order of the reference**, and so does every run that says that it is completed. -/
theorem traversed_of_run (hrun : setup.run o calendar stopAt events outside = some ended) :
    ∃ (course : Course setup o calendar stopAt events outside ended) (stays : List (Stay σ)),
      (¬ Stopped ended.world.history → ¬ Lost ended.world.history →
        Traversed course stays ∧ ended.outcome = .completed) ∧
      (ended.outcome = .completed → Traversed course stays) := by
  obtain ⟨course⟩ := exists_course hrun
  obtain ⟨stays, htoured⟩ := course.toured
  refine ⟨course, stays, fun hnot hkept => ?_, fun hcompleted => ?_⟩
  · have hended : ended.world.isStopped = false :=
      Bool.eq_false_iff.2 (mt (coherent_of_run hrun).1.1 hnot)
    have hafter := course.later_end.goes hended
    have htripped : ended.world.watchdog.tripped = false :=
      Bool.eq_false_iff.2 fun h => by rw [tripStops_of_run hrun h] at hended; cases hended
    have hresult := course.result_eq_ok_iff.2 hkept
    refine ⟨htoured.traversed hresult (course.later_after.goes hafter), ?_⟩
    rw [course.outcome_eq, hresult, World.verdict, htripped, World.outcome, hafter]
    rfl
  · obtain ⟨hresult, hgoes⟩ := course.done_of_completed hcompleted
    exact htoured.traversed hresult hgoes

/-- An outside with one file, which is a table with two rows, one script, frames, and an element
wherever one is looked for. -/
def Outside.furnished (part : List Event) : Outside Unit
  | .readFile path, s => .answer s (if path = "rows.csv" then .ok "a\n1\n2" else .error .notFound)
  | .loadScript _, s => .answer s (.ok part)
  | .call (.find ..), s => .answer s (.ok ⟨"box", "div"⟩)
  | .call (.switchToFrame _), s => .answer s (.ok ())
  | .call .switchToDefaultContent, s => .answer s (.ok ())
  | a, s => oneWindow a s

/-- An event for an element, with these children. -/
def Event.box (children : List Event) : Event :=
  { kind := .markup .div, name := "div", children }

/-- A script with a table, and an event that fails, so that its child does not start. -/
def tablePart : List Event :=
  [{ kind := .command .csv, name := "csv", actions := ⟨[("file", .text "rows.csv")]⟩,
     children := [.box [{ kind := .command .timestamp, name := "timestamp" }]] },
   { kind := .command .puts, name := "puts",
     children := [{ kind := .command .arg, name := "arg" }] }]

/-- The script is included below an element, by an event with a child of its own; then an element is
looked for in a frame. -/
def nestedEvents : List Event :=
  [.box [{ kind := .command .script, name := "script",
           actions := ⟨[("file", .text "part.yaml")]⟩,
           children := [{ kind := .command .arg, name := "arg" }] }],
   { kind := .frame, name := "frame", selectors := ⟨[("name", .text "inner")]⟩,
     children := [.box []] }]

theorem traversed_nestedRun : ∃ ended,
    Setup.small.run (.furnished tablePart) ⟨2020, 1, 1, 0, 0, 0⟩ none nestedEvents () = some ended ∧
    ¬ Stopped ended.world.history ∧ ¬ Lost ended.world.history ∧
    (starts ended.world.history).map (fun x => (x.1.name, x.2.map (·.id))) =
      [("div", none), ("script", some "box"), ("csv", some "box"), ("div", some "box"),
        ("timestamp", some "box"), ("div", some "box"), ("timestamp", some "box"),
        ("puts", some "box"), ("arg", none), ("frame", none),
        ("div", none)] ∧
    ended.outcome = .completed ∧
    ∃ (course : Course .small (.furnished tablePart) ⟨2020, 1, 1, 0, 0, 0⟩ none nestedEvents ()
        ended) (stays : List (Stay Unit)), Traversed course stays := by
  have hshown : (Setup.small.run (.furnished tablePart) ⟨2020, 1, 1, 0, 0, 0⟩ none nestedEvents
      ()).map (fun ended => (ended.world.isStopped, losses ended.world.history,
        (starts ended.world.history).map fun x => (x.1.name, x.2.map (·.id)))) =
      some (false, [], [("div", none), ("script", some "box"), ("csv", some "box"),
        ("div", some "box"), ("timestamp", some "box"), ("div", some "box"),
        ("timestamp", some "box"), ("puts", some "box"), ("arg", none), ("frame", none),
        ("div", none)]) := by
    decide +kernel
  obtain ⟨ended, hrun, hshown⟩ := Option.map_eq_some_iff.1 hshown
  simp only [Prod.mk.injEq] at hshown
  obtain ⟨hgoes, hlosses, hstarts⟩ := hshown
  have hnot : ¬ Stopped ended.world.history := (coherent_of_run hrun).not_stopped hgoes
  have hkept : ¬ Lost ended.world.history := fun hlost => lost_iff.1 hlost hlosses
  obtain ⟨course, stays, htraversed, -⟩ := traversed_of_run hrun
  obtain ⟨hcourse, hcompleted⟩ := htraversed hnot hkept
  exact ⟨ended, hrun, hnot, hkept, hstarts, hcompleted, course, stays, hcourse⟩

end Runs

end PageScript
