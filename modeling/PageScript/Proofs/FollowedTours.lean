import PageScript.Proofs.MirroredTours

/-!
# Runs that follow one another

A run of events is followed by the run of what comes of them if the events of a script are put in the
place of an event that includes it. From points that are abreast the second run comes through the same
stays, but for those in the event that includes the script, to the same result and to points that are
abreast again. It is shown for each rule of a tour from the same for its parts. Where the script is in
the place of the event, the tour of the siblings in the second run splits in one of the script and one
of what comes after it; these belong to the stay in that event and to the siblings after it.
-/

namespace PageScript

open Stretch

variable {σ : Type} {o : Outside σ} {setup : Setup} {inclusion : Event} {included : List Event}
  {event : Event} {events children : List Event} {parent : Option Element} {cells : Row}
  {rows : List Row} {m m₁ m₂ : Moment σ} {here later : List (Stay σ)} {r : Except Error Unit}
  {e : Error}

/-- A traversal comes into an event only as long as the run has not been stopped. -/
def Leg.Enters (m : Moment σ) : Leg → Prop
  | .single _ _ => m.world.isStopped = false
  | .siblings _ _ | .rows _ _ _ | .within _ _ _ => True

theorem Inner.enters_leg (inner : Inner) (children : List Event) (parent : Option Element)
    (m : Moment σ) : (inner.leg children parent).Enters m := by
  cases inner <;> trivial

/-- What comes of a part of a traversal runs through the same, from every point abreast of the first
one, as long as the watchdog trips in neither run. -/
def Follows (setup : Setup) (o : Outside σ) (inclusion : Event) (included : List Event) (leg : Leg)
    (m : Moment σ) (stays : List (Stay σ)) (r : Except Error Unit) (m₁ : Moment σ) : Prop :=
  ∀ ⦃leg' m' stays' r' m₁'⦄, leg.InPlace inclusion included leg' → leg.Enters m →
    m.Abreast inclusion.OwnLine m' → Tour setup o leg' m' stays' r' m₁' →
    m₁.world.Untripped → m₁'.world.Untripped →
    r' = r ∧ Mirrors inclusion stays stays' ∧ m₁.Abreast inclusion.OwnLine m₁'

namespace Follows

/-! ## Siblings -/

theorem none (parent : Option Element) (m : Moment σ) :
    Follows setup o inclusion included (.siblings [] parent) m [] (.ok ()) m := by
  rintro leg' m' stays' r' m₁' (_ | _ | ⟨_, _ | _ | _⟩) - h htour - -
  cases htour
  exact ⟨rfl, .nil, h⟩

theorem stopped (hstop : m.world.isStopped = true) :
    Follows setup o inclusion included (.siblings (event :: events) parent) m [] (.ok ())
      (m.say (.note .debug .traversal "Stop requested, skipping remaining events")) := by
  intro leg' m' stays' r' m₁' hleg _ h htour _ _
  cases hleg with
  | siblings _ _ =>
    obtain ⟨rfl, rfl, hskips⟩ := htour.of_stopped (by rw [h.world.stopped_eq, hstop])
    exact ⟨rfl, .nil, (Moment.Abreast.skips_right hskips).2 h.skip_left⟩

theorem next (hgoes : m.world.isStopped = false) (hlater : m₁.world.Later m₂.world)
    (ihhere : Follows setup o inclusion included (.single event parent) m here (.ok ()) m₁)
    (ihlater : Follows setup o inclusion included (.siblings events parent) m₁ later r m₂) :
    Follows setup o inclusion included (.siblings (event :: events) parent) m (here ++ later) r
      m₂ := by
  intro leg' m' stays' r' m₁' hleg _ h htour hun hun'
  cases hleg with | siblings _ hevents => ?_
  cases hevents with
  | keep hchildren hevents =>
    have hsingle := Leg.InPlace.single parent hchildren
    cases htour with
    | next _ hhere' hlater' =>
      obtain ⟨-, hmirrors, h₁⟩ := ihhere hsingle hgoes h hhere' (hun.before hlater)
        (hun'.before hlater'.later)
      obtain ⟨hr, hmirrors', h₂⟩ := ihlater (.siblings parent hevents) trivial h₁ hlater' hun hun'
      exact ⟨hr, hmirrors.append hmirrors', h₂⟩
    | stopped hstop =>
      cases (h.world.stopped_eq.trans hgoes).symm.trans hstop
    | ended _ hhere' => cases (ihhere hsingle hgoes h hhere' (hun.before hlater) hun').1
  | put hevents =>
    rcases htour.split with ⟨e, rfl, hends⟩ | ⟨here', later', mid, mid', rfl, hhere', hlater', hmid⟩
    · cases (ihhere (.put parent) hgoes h hends (hun.before hlater) hun').1
    · obtain ⟨-, hmirrors, h₁⟩ := ihhere (.put parent) hgoes h hhere' (hun.before hlater)
        (hmid.untripped (hun'.before hlater'.later))
      obtain ⟨hr, hmirrors', h₂⟩ := ihlater (.siblings parent hevents) trivial
        ((Moment.Abreast.skips_right hmid).1 h₁) hlater' hun hun'
      exact ⟨hr, hmirrors.append hmirrors', h₂⟩

theorem ended (hgoes : m.world.isStopped = false)
    (ihhere : Follows setup o inclusion included (.single event parent) m here (.error e) m₁) :
    Follows setup o inclusion included (.siblings (event :: events) parent) m here (.error e)
      m₁ := by
  intro leg' m' stays' r' m₁' hleg _ h htour hun hun'
  cases hleg with | siblings _ hevents => ?_
  cases hevents with
  | keep hchildren hevents =>
    have hsingle := Leg.InPlace.single parent hchildren
    cases htour with
    | next _ hhere' hlater' =>
      cases (ihhere hsingle hgoes h hhere' hun (hun'.before hlater'.later)).1
    | stopped hstop =>
      cases (h.world.stopped_eq.trans hgoes).symm.trans hstop
    | ended _ hhere' => exact ihhere hsingle hgoes h hhere' hun hun'
  | put hevents =>
    rcases htour.split with ⟨e, rfl, hends⟩ | ⟨here', later', mid, mid', rfl, hhere', hlater', hmid⟩
    · exact ihhere (.put parent) hgoes h hends hun hun'
    · cases (ihhere (.put parent) hgoes h hhere' hun
        (hmid.untripped (hun'.before hlater'.later))).1

/-! ## Rows -/

theorem noRow (children : List Event) (parent : Option Element) (m : Moment σ) :
    Follows setup o inclusion included (.rows children parent []) m [] (.ok ()) m := by
  intro leg' m' stays' r' m₁' hleg _ h htour _ _
  cases hleg
  cases htour
  exact ⟨rfl, .nil, h⟩

theorem stoppedRow (hstop : m.world.isStopped = true) :
    Follows setup o inclusion included (.rows children parent (cells :: rows)) m [] (.ok ()) m := by
  intro leg' m' stays' r' m₁' hleg _ h htour _ _
  cases hleg
  cases htour with
  | stoppedRow _ => exact ⟨rfl, .nil, h⟩
  | nextRow hgoes _ _ _ | endedRow hgoes _ _ =>
    cases (h.world.stopped_eq.trans hstop).symm.trans hgoes

variable {vars : Vars}

theorem nextRow (hgoes : m.world.isStopped = false) (hpop : m₁.session.vars.pop = .ok vars)
    (hlater : m₁.world.Later m₂.world)
    (ihhere : Follows setup o inclusion included (.siblings children parent) (m.entering cells) here
      (.ok ()) m₁)
    (ihlater : Follows setup o inclusion included (.rows children parent rows) (m₁.withVars vars)
      later r m₂) :
    Follows setup o inclusion included (.rows children parent (cells :: rows)) m (here ++ later) r
      m₂ := by
  intro leg' m' stays' r' m₁' hleg _ h htour hun hun'
  cases hleg with | rows _ _ hchildren => ?_
  have hsiblings := Leg.InPlace.siblings parent hchildren
  cases htour with
  | nextRow _ hhere' hpop' hlater' =>
    obtain ⟨-, hmirrors, h₁⟩ := ihhere hsiblings trivial (h.entering cells) hhere'
      (hun.before hlater) (hun'.before hlater'.later)
    rw [h₁.session_eq, hpop] at hpop'
    cases hpop'
    obtain ⟨hr, hmirrors', h₂⟩ := ihlater (.rows parent rows hchildren) trivial (h₁.withVars vars)
      hlater' hun hun'
    exact ⟨hr, hmirrors.append hmirrors', h₂⟩
  | stoppedRow hstop =>
    cases (h.world.stopped_eq.trans hgoes).symm.trans hstop
  | endedRow _ hhere' _ =>
    cases (ihhere hsiblings trivial (h.entering cells) hhere' (hun.before hlater) hun').1

theorem endedRow (hgoes : m.world.isStopped = false) (hpop : m₁.session.vars.pop = .ok vars)
    (ihhere : Follows setup o inclusion included (.siblings children parent) (m.entering cells) here
      (.error e) m₁) :
    Follows setup o inclusion included (.rows children parent (cells :: rows)) m here (.error e)
      (m₁.withVars vars) := by
  intro leg' m' stays' r' m₁' hleg _ h htour hun hun'
  cases hleg with | rows _ _ hchildren => ?_
  have hsiblings := Leg.InPlace.siblings parent hchildren
  cases htour with
  | nextRow _ hhere' _ hlater' =>
    cases (ihhere hsiblings trivial (h.entering cells) hhere' hun (hun'.before hlater'.later)).1
  | stoppedRow hstop =>
    cases (h.world.stopped_eq.trans hgoes).symm.trans hstop
  | endedRow _ hhere' hpop' =>
    obtain ⟨hr, hmirrors, h₁⟩ := ihhere hsiblings trivial (h.entering cells) hhere' hun hun'
    rw [h₁.session_eq, hpop] at hpop'
    cases hpop'
    exact ⟨hr, hmirrors, h₁.withVars vars⟩

/-! ## What belongs to an event -/

theorem failed (event : Event) (parent : Option Element) (mishap : Mishap) (m : Moment σ) :
    Follows setup o inclusion included (.within event parent (.error mishap)) m [] (.ok ()) m := by
  intro leg' m' stays' r' m₁' hleg _ h htour _ _
  cases hleg
  cases htour
  exact ⟨rfl, .nil, h⟩

variable {opening : Opened}

theorem opened (hincludes : setup.Includes inclusion)
    (ihinner : Follows setup o inclusion included (opening.inner.leg event.children parent) m here
      (.ok ()) m₁)
    (hbelow : Tour setup o (.siblings event.lastChildren opening.element) m₁ later r m₂)
    (ihbelow : Follows setup o inclusion included (.siblings event.lastChildren opening.element) m₁
      later r m₂) :
    Follows setup o inclusion included (.within event parent (.ok opening)) m (here ++ later) r
      m₂ := by
  intro leg' m' stays' r' m₁' hleg _ h htour hun hun'
  have henters := opening.inner.enters_leg event.children parent m
  have hun₁ := hun.before hbelow.later
  cases hleg with
  | within _ _ hchildren =>
    have hinner := opening.inner.leg_inPlace parent hchildren
    cases htour with
    | opened hhere' hbelow' =>
      obtain ⟨-, hmirrors, h₁⟩ := ihinner hinner henters h hhere' hun₁ (hun'.before hbelow'.later)
      obtain ⟨hr, hmirrors', h₂⟩ := ihbelow (.siblings opening.element hchildren.lastChildren) trivial
        h₁ hbelow' hun hun'
      exact ⟨hr, hmirrors.append hmirrors', h₂⟩
    | halted hhere' hreport =>
      cases (ihinner hinner henters h hhere' hun₁ (hun'.before hreport.later)).1
  | inside _ =>
    obtain ⟨hr, hmirrors, h₁⟩ := ihinner (.siblings parent (.refl inclusion included included))
      henters h htour hun₁ hun'
    rw [hincludes.lastChildren] at hbelow
    cases hbelow
    rw [List.append_nil]
    exact ⟨hr, hmirrors, h₁⟩

theorem halted
    (ihinner : Follows setup o inclusion included (opening.inner.leg event.children parent) m here
      (.error e) m₁)
    (hreport : Comes o (Journey.report event (.halted e)).run m₁ (.error e) m₂) :
    Follows setup o inclusion included (.within event parent (.ok opening)) m here (.error e) m₂ := by
  intro leg' m' stays' r' m₁' hleg _ h htour hun hun'
  have henters := opening.inner.enters_leg event.children parent m
  have hun₁ := hun.before hreport.later
  cases hleg with
  | within _ _ hchildren =>
    have hinner := opening.inner.leg_inPlace parent hchildren
    cases htour with
    | opened hhere' hbelow' =>
      cases (ihinner hinner henters h hhere' hun₁ (hun'.before hbelow'.later)).1
    | halted hhere' hreport' =>
      obtain ⟨hr, hmirrors, h₁⟩ := ihinner hinner henters h hhere' hun₁
        (hun'.before hreport'.later)
      cases hr
      obtain ⟨hr, h₂⟩ := h₁.reports hreport hreport' hun hun'
      exact ⟨hr, hmirrors, h₂⟩
  | inside _ =>
    obtain ⟨hr, hmirrors, h₁⟩ := ihinner (.siblings parent (.refl inclusion included included))
      henters h htour hun₁ hun'
    exact ⟨hr, hmirrors, (h₁.reports_left hreport).2⟩

/-! ## Events -/

variable {result : Except Mishap Opened} {carried done : Moment σ} {inner : List (Stay σ)}
  {rw r : Except Error Unit} {departure : Option (Departure σ)}

theorem single (hplugins : setup.plugins = []) (hincludes : setup.Includes inclusion)
    (hloads : event = inclusion → m.Loads setup o inclusion included)
    (hopen : Comes o (Passage.openEvent setup event parent).run (m.starting event parent) result
      carried)
    (hwithin : Tour setup o (.within event parent result) carried inner rw done)
    (ih : Follows setup o inclusion included (.within event parent result) carried inner rw done)
    (hcloses : Closes setup o event parent result done rw departure r m₁) :
    Follows setup o inclusion included (.single event parent) m
      [⟨⟨event, parent, result⟩, m, carried, inner, departure⟩] r m₁ := by
  intro leg' m' stays' r' m₁' hleg hgoes h htour hun hun'
  have hun₁ := hun.before hcloses.later
  cases hleg with
  | @single _ children _ hchildren =>
    obtain ⟨result', carried', inner', rw', done', departure', hopen', hwithin', hcloses', rfl⟩ :=
      htour.single_inv
    have hun₁' := hun'.before hcloses'.later
    obtain ⟨rfl, hcarried⟩ := h.opens hplugins hopen hopen' (hun₁.before hwithin.later)
      (hun₁'.before hwithin'.later)
    obtain ⟨rfl, hmirrors, hdone⟩ := ih (.within parent result' hchildren) trivial hcarried hwithin'
      hun₁ hun₁'
    obtain ⟨hr, hdeparture, h₁⟩ := hcloses.abreast hplugins hdone hcloses' hun hun'
    have hstay : Stay.Abreast inclusion.OwnLine
        ⟨⟨event, parent, result'⟩, m, carried, inner, departure⟩
        ⟨⟨{ event with children }, parent, result'⟩, m', carried', inner', departure'⟩ :=
      ⟨rfl, rfl, rfl, h, hcarried, hdeparture⟩
    exact ⟨hr, .keep hstay hmirrors .nil, h₁⟩
  | put _ =>
    obtain ⟨rfl, hcarried⟩ := h.opens_left hincludes hgoes (hloads rfl) hopen
      (hun₁.before hwithin.later)
    obtain ⟨rfl, hmirrors, hdone⟩ := ih (.inside parent) trivial hcarried htour hun₁ hun'
    obtain ⟨rfl, h₁⟩ := hcloses.abreast_left hdone
    rw [← stays'.append_nil]
    exact ⟨rfl, .put rfl hmirrors .nil, h₁⟩

end Follows

/-- **A tour is followed by the tours of what comes of it** if the events of a script are put in the
place of an event that includes it. -/
theorem Tour.follows (hplugins : setup.plugins = []) (hincludes : setup.Includes inclusion)
    {leg : Leg} {stays : List (Stay σ)} (h : Tour setup o leg m stays r m₁)
    (hloads : ∀ stay ∈ Stay.allOf stays, stay.event = inclusion →
      stay.before.Loads setup o inclusion included) :
    Follows setup o inclusion included leg m stays r m₁ := by
  induction h with
  | none parent m => exact .none parent m
  | next hgoes _ hlater ihhere ihlater =>
    obtain ⟨hloadshere, hloadslater⟩ := Stay.forall_allOf_append.1 hloads
    exact .next hgoes hlater.later (ihhere hloadshere) (ihlater hloadslater)
  | stopped hstop => exact .stopped hstop
  | ended hgoes _ ih => exact .ended hgoes (ih hloads)
  | noRow children parent m => exact .noRow children parent m
  | nextRow hgoes _ hpop hlater ihhere ihlater =>
    obtain ⟨hloadshere, hloadslater⟩ := Stay.forall_allOf_append.1 hloads
    exact .nextRow hgoes hpop hlater.later (ihhere hloadshere) (ihlater hloadslater)
  | stoppedRow hstop => exact .stoppedRow hstop
  | endedRow hgoes _ hpop ih => exact .endedRow hgoes hpop (ih hloads)
  | failed event parent mishap m => exact .failed event parent mishap m
  | opened _ hbelow ihinner ihbelow =>
    obtain ⟨hloadsinner, hloadsbelow⟩ := Stay.forall_allOf_append.1 hloads
    exact .opened hincludes (ihinner hloadsinner) hbelow (ihbelow hloadsbelow)
  | halted _ hreport ih => exact .halted (ih hloads) hreport
  | finished hopen hwithin hsettle hfinish ih =>
    obtain ⟨hload, hloadswithin⟩ := Stay.forall_allOf_singleton.1 hloads
    exact .single hplugins hincludes hload hopen hwithin (ih hloadswithin)
      (.finished hsettle hfinish)
  | lost hopen hwithin hsettle ih =>
    obtain ⟨hload, hloadswithin⟩ := Stay.forall_allOf_singleton.1 hloads
    exact .single hplugins hincludes hload hopen hwithin (ih hloadswithin) (.lost hsettle)
  | unwound hopen hwithin ih =>
    obtain ⟨hload, hloadswithin⟩ := Stay.forall_allOf_singleton.1 hloads
    exact .single hplugins hincludes hload hopen hwithin (ih hloadswithin) (.unwound _)

end PageScript
