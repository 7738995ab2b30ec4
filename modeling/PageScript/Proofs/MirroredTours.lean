import PageScript.Proofs.ScriptsInPlace

/-!
# Tours of the same way

Two runs that are abreast remain so while they do the same, if no plugins are active and neither of them
is tripped. There is one lemma for each thing that a tour does: coming into an event, leaving it, the
report of a failure, the scope of a row. What is said that only one of the runs says, that siblings are
left out, is not seen.

A tour is taken apart here as its constructors put it together: a tour of one event comes into it, goes
through what belongs to it and leaves it, and a tour of siblings is one of the first of them and, unless it
ends there, one of those that are left.
-/

namespace PageScript

open Stretch

variable {σ : Type} {o : Outside σ} {setup : Setup} {inclusion : Event} {included : List Event}
  {own : Report → Prop} {event : Event} {parent : Option Element} {m m' m₁ m₁' : Moment σ}

/-! ## The same in both runs -/

theorem Setup.steady_of_plugins {E : Element → Element → Prop} (hplugins : setup.plugins = []) :
    setup.Steady E := fun r hmem => by
  rw [hplugins] at hmem
  cases hmem

theorem Opened.Akin.eq {opened opened' : Opened} (h : opened.Akin Eq opened') :
    opened' = opened := by
  obtain ⟨element, inner, restore⟩ := opened
  obtain ⟨element', inner', restore'⟩ := opened'
  obtain ⟨helement, hinner, hrestore⟩ := h
  obtain rfl : element' = element := by
    cases helement with
    | none => rfl
    | some he => exact congrArg some he.symm
  obtain rfl : inner' = inner := hinner
  obtain rfl : restore' = restore := hrestore
  rfl

/-- A point after this one at which, if anything, it has been said that siblings are left out. -/
inductive Moment.Skips (m : Moment σ) : Moment σ → Prop where
  | going : Skips m m
  | stopped : Skips m (m.say (.note .debug .traversal "Stop requested, skipping remaining events"))

theorem Moment.Skips.untripped (h : m.Skips m₁) (hun : m.world.Untripped) : m₁.world.Untripped := by
  cases h with
  | going => exact hun
  | stopped => exact fun t hmem => (List.mem_cons.1 hmem).elim nofun (hun t)

namespace Moment.Abreast

theorem starting (h : m.Abreast own m') (event : Event) (children : List Event)
    (parent : Option Element) :
    (m.starting event parent).Abreast own (m'.starting { event with children } parent) := by
  have htold : (m.world.tell (.stage (.started event parent))).Abreast own
      (m'.world.tell (.stage (.started { event with children } parent))) := h.world.tell rfl
  exact ⟨h.session_eq, h.registry, htold.pulse⟩

theorem opens (hplugins : setup.plugins = []) (h : m.Abreast own m') {children : List Event}
    {result result' : Except Mishap Opened}
    (hopen : Comes o (Passage.openEvent setup event parent).run (m.starting event parent) result m₁)
    (hopen' : Comes o (Passage.openEvent setup { event with children } parent).run
      (m'.starting { event with children } parent) result' m₁')
    (hun : m₁.world.Untripped) (hun' : m₁'.world.Untripped) :
    result' = result ∧ m₁.Abreast own m₁' := by
  have hparent : Option.Rel Eq parent parent := by cases parent <;> constructor; rfl
  obtain ⟨hresult, h₁⟩ := Stretch.Comes.abreast
    (Passage.twins_openEvent (Setup.steady_of_plugins hplugins) children hparent)
    (Passage.plain_openEvent hplugins event parent) (h.starting event children parent) hopen hopen'
    hun hun'
  exact ⟨(hresult.mono fun _ _ hopened => (Opened.Akin.eq hopened).symm).eq.symm, h₁⟩

theorem settles (hplugins : setup.plugins = []) (h : m.Abreast own m') {children : List Event}
    {result : Except Mishap Opened} {r r' : Except Error Unit}
    (hsettle : Comes o (Journey.settle setup event result).run m r m₁)
    (hsettle' : Comes o (Journey.settle setup { event with children } result).run m' r' m₁')
    (hun : m₁.world.Untripped) (hun' : m₁'.world.Untripped) :
    r' = r ∧ m₁.Abreast own m₁' := by
  have htwins : Stretch.Twins Eq (Journey.settle setup event result).run
      (Journey.settle setup { event with children } result).run (Agrees Eq) := by
    cases result with
    | ok opened => exact Journey.twins_leave event children opened.restore
    | error mishap => exact Journey.twins_report event children _
  obtain ⟨hr, h₁⟩ := Stretch.Comes.abreast htwins (Journey.plain_settle hplugins event result) h
    hsettle hsettle' hun hun'
  exact ⟨hr.eq.symm, h₁⟩

theorem finishes (h : m.Abreast own m') {children : List Event} {element : Option Element}
    {r r' : Except Error Unit}
    (hfinish : Comes o (Journey.finish setup event element).run m r m₁)
    (hfinish' : Comes o (Journey.finish setup { event with children } element).run m' r' m₁')
    (hun : m₁.world.Untripped) (hun' : m₁'.world.Untripped) :
    r' = r ∧ m₁.Abreast own m₁' := by
  have helement : Option.Rel Eq element element := by cases element <;> constructor; rfl
  have htold : Stretch.Twins Eq (Journey.tell (.finished event element)).run
      (Journey.tell (.finished { event with children } element)).run (Agrees Eq) :=
    Journey.twins_tell rfl
  have hafter : Stretch.Twins Eq
      (Stretch.fire setup { phase := .afterEvent, event := some event, element })
      (Stretch.fire setup { phase := .afterEvent, event := some { event with children }, element })
      Eq := Stretch.twins_fire ⟨rfl, rfl, helement⟩
  have htwins : Stretch.Twins Eq (Journey.finish setup event element).run
      (Journey.finish setup { event with children } element).run (Agrees Eq) :=
    Journey.twins_pulse.run_bind_eq fun _ => htold.run_bind_eq fun _ => hafter.run_lift
  obtain ⟨hr, h₁⟩ := Stretch.Comes.abreast htwins (Journey.plain_finish event element) h
    hfinish hfinish' hun hun'
  exact ⟨hr.eq.symm, h₁⟩

theorem reports (h : m.Abreast own m') {children : List Event} {failure : Failure}
    {r r' : Except Error Unit} (hreport : Comes o (Journey.report event failure).run m r m₁)
    (hreport' : Comes o (Journey.report { event with children } failure).run m' r' m₁')
    (hun : m₁.world.Untripped) (hun' : m₁'.world.Untripped) :
    r' = r ∧ m₁.Abreast own m₁' := by
  obtain ⟨hr, h₁⟩ := Stretch.Comes.abreast (Journey.twins_report event children failure)
    (Journey.plain_report event failure) h hreport hreport' hun hun'
  exact ⟨hr.eq.symm, h₁⟩

/-- The scope of a row is entered in both runs. -/
theorem entering (h : m.Abreast own m') (cells : Row) :
    (m.entering cells).Abreast own (m'.entering cells) :=
  ⟨by rw [Moment.entering, Moment.entering, h.session_eq], h.registry, h.world.tell rfl⟩

theorem withVars (h : m.Abreast own m') (vars : Vars) :
    (m.withVars vars).Abreast own (m'.withVars vars) :=
  ⟨by rw [Moment.withVars, Moment.withVars, h.session_eq], h.registry, h.world⟩

/-- That siblings are left out is not seen. -/
theorem skip_left (h : m.Abreast own m') :
    (m.say (.note .debug .traversal "Stop requested, skipping remaining events")).Abreast own m' :=
  ⟨h.session_eq, h.registry, h.world.tell_left fun _ heq => by cases heq⟩

theorem skips_right (hskips : m'.Skips m₁') : m.Abreast own m₁' ↔ m.Abreast own m' := by
  cases hskips with
  | going => exact .rfl
  | stopped =>
    have htrace : (m'.say (.note .debug .traversal
        "Stop requested, skipping remaining events")).world.trace = m'.world.trace :=
      World.trace_tell m'.world _
    constructor <;> intro h
    · exact ⟨h.session_eq, h.registry, h.world.of_trace rfl htrace.symm h.world.now_eq
        h.world.stopped_eq h.world.stopAt_eq h.world.pending⟩
    · exact ⟨h.session_eq, h.registry, h.world.of_trace rfl htrace h.world.now_eq
        h.world.stopped_eq h.world.stopAt_eq h.world.pending⟩

end Moment.Abreast

/-! ## Parts of tours -/

/-- In both runs an event is left alike. -/
theorem Closes.abreast (hplugins : setup.plugins = []) {children : List Event}
    {result : Except Mishap Opened} {done done' : Moment σ} {rw r r' : Except Error Unit}
    {departure departure' : Option (Departure σ)} (h : done.Abreast own done')
    (hcloses : Closes setup o event parent result done rw departure r m₁)
    (hcloses' : Closes setup o { event with children } parent result done' rw departure' r' m₁')
    (hun : m₁.world.Untripped) (hun' : m₁'.world.Untripped) :
    r' = r ∧ Option.Rel (Departure.Abreast own) departure departure' ∧ m₁.Abreast own m₁' := by
  cases hcloses with
  | finished hsettle hfinish =>
    have hun₁ := hun.before hfinish.later
    cases hcloses' with
    | finished hsettle' hfinish' =>
      obtain ⟨-, hleft⟩ := h.settles hplugins hsettle hsettle' hun₁ (hun'.before hfinish'.later)
      obtain ⟨hr, hafter⟩ := hleft.finishes hfinish hfinish' hun hun'
      exact ⟨hr, .some ⟨h, hleft, hafter⟩, hafter⟩
    | lost hsettle' => cases (h.settles hplugins hsettle hsettle' hun₁ hun').1
  | lost hsettle =>
    cases hcloses' with
    | finished hsettle' hfinish' =>
      cases (h.settles hplugins hsettle hsettle' hun (hun'.before hfinish'.later)).1
    | lost hsettle' =>
      obtain ⟨hr, h₁⟩ := h.settles hplugins hsettle hsettle' hun hun'
      exact ⟨hr, .none, h₁⟩
  | unwound e =>
    cases hcloses'
    exact ⟨rfl, .none, h⟩

/-- An event that includes a script may be left in one of two runs that are abreast. -/
theorem Closes.abreast_left {done : Moment σ} {rw r : Except Error Unit}
    {departure : Option (Departure σ)} (h : done.Abreast inclusion.OwnLine m')
    (hcloses : Closes setup o inclusion parent (.ok { inner := .events included }) done rw departure r
      m₁) : r = rw ∧ m₁.Abreast inclusion.OwnLine m' := by
  cases hcloses with
  | finished hsettle hfinish =>
    obtain ⟨-, hleft⟩ := h.settles_left rfl hsettle
    exact ⟨rfl, (hleft.finishes_left hfinish).2⟩
  | lost hsettle => cases (h.settles_left rfl hsettle).1
  | unwound e => exact ⟨rfl, h⟩

namespace Tour

variable {stays : List (Stay σ)} {r : Except Error Unit}

/-- A tour of siblings ends among the first of them, or it goes on with the later ones. If it has been
stopped among the first ones, then both parts would say so that siblings are left out. -/
theorem split {events later : List Event}
    (h : Tour setup o (.siblings (events ++ later) parent) m stays r m₁) :
    (∃ e, r = .error e ∧ Tour setup o (.siblings events parent) m stays (.error e) m₁) ∨
    ∃ here rest mid mid', stays = here ++ rest ∧
      Tour setup o (.siblings events parent) m here (.ok ()) mid ∧
      Tour setup o (.siblings later parent) mid' rest r m₁ ∧
      mid'.Skips mid := by
  induction events generalizing m stays with
  | nil => exact .inr ⟨[], stays, m, m, rfl, .none parent m, h, .going⟩
  | cons event events ih =>
    cases h with
    | next hgoes hhere hlater =>
      rcases ih hlater with ⟨e, rfl, hends⟩ | ⟨here, rest, mid, mid', rfl, hfirst, hrest, hmid⟩
      · exact .inl ⟨e, rfl, .next hgoes hhere hends⟩
      · exact .inr ⟨_, rest, mid, mid', (List.append_assoc _ _ _).symm, .next hgoes hhere hfirst,
          hrest, hmid⟩
    | ended hgoes hhere => exact .inl ⟨_, rfl, .ended hgoes hhere⟩
    | stopped hstop =>
      cases later with
      | nil => exact .inr ⟨[], [], _, _, rfl, .stopped hstop, .none parent _, .going⟩
      | cons event' later => exact .inr ⟨[], [], _, m, rfl, .stopped hstop, .stopped hstop, .stopped⟩

/-- A tour of siblings that has been stopped before leads nowhere. -/
theorem of_stopped {events : List Event} (h : Tour setup o (.siblings events parent) m stays r m₁)
    (hstop : m.world.isStopped = true) : stays = [] ∧ r = .ok () ∧ m.Skips m₁ := by
  cases h with
  | none => exact ⟨rfl, rfl, .going⟩
  | stopped _ => exact ⟨rfl, rfl, .stopped⟩
  | next hgoes _ _ | ended hgoes _ =>
    rw [hstop] at hgoes
    cases hgoes

end Tour
end PageScript
