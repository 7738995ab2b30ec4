import Mathlib.Data.List.Forall2
import PageScript.Proofs.SessionEdits
import PageScript.Proofs.ScopeUnderflows

/-!
# Names and the scopes of rows

Rows of a table bind names in a scope of their own, which is left again at the end of the row,
whether the events of the row have failed, the run has been stopped or the browser is lost. So a
list of events leaves as many scopes as it has found, and the scope of a row is always there to be
left.

What happens in a row happens above the scopes that were there before: names may be removed from
these, and bound names may get other values, but a new name goes into a newer scope. That is the
invariant, and an induction on the tour of the events carries it. So all that a row can do to the
names in sight is to remove some. A name that comes into sight has been bound by an event outside
all rows.
-/

namespace PageScript

variable {σ α : Type}

/-! ## Scopes that lose names -/

/-- A scope binds no name that it has not bound before. -/
def Scope.Fades (s s' : Scope) : Prop :=
  ∀ name, Bindings.has s' name = true → Bindings.has s name = true

/-- The scopes are those from before, and they bind no new names. -/
structure Vars.Fades (v v' : Vars) : Prop where
  flat_eq : v'.flat = v.flat
  scopes : List.Forall₂ Scope.Fades v.scopes v'.scopes

/-- The scopes are those from before, and all but the newest bind no new names. -/
structure Vars.Keeps (v v' : Vars) : Prop where
  flat_eq : v'.flat = v.flat
  older : List.Forall₂ Scope.Fades v.older v'.older

section Scopes

variable {s s' s'' : Scope} {scopes scopes' scopes'' : List Scope} {v v' v'' : Vars}

theorem Scope.Fades.refl (s : Scope) : s.Fades s := fun _ h => h

theorem Scope.Fades.trans (h : s.Fades s') (h' : s'.Fades s'') : s.Fades s'' :=
  fun name hname => h name (h' name hname)

theorem fades_refl (scopes : List Scope) : List.Forall₂ Scope.Fades scopes scopes :=
  List.forall₂_same.2 fun s _ => .refl s

theorem fades_trans (h : List.Forall₂ Scope.Fades scopes scopes')
    (h' : List.Forall₂ Scope.Fades scopes' scopes'') :
    List.Forall₂ Scope.Fades scopes scopes'' := by
  induction h generalizing scopes'' with
  | nil => exact h'
  | cons hs _ ih =>
    cases h' with
    | cons hs' htail => exact .cons (hs.trans hs') (ih htail)

/-- To put a value where the name is bound already makes no name. -/
theorem fades_put {name value : String} (h : Bindings.has s name = true) :
    s.Fades (Bindings.put name value s) := by
  intro other hother
  unfold Bindings.has at hother h ⊢
  rw [Bindings.get?_put] at hother
  split at hother
  · rename_i heq
    rw [heq]
    exact h
  · exact hother

theorem fades_erase (s : Scope) (name : String) : s.Fades (Bindings.erase name s) := by
  intro other hother
  unfold Bindings.has at hother ⊢
  rw [Bindings.get?_erase] at hother
  split at hother
  · cases hother
  · exact hother

/-- The first scope that binds a name is changed without a name being made. -/
theorem fades_changeFirst {name : String} {change : Scope → Scope}
    (h : ∀ s : Scope, Bindings.has s name = true → s.Fades (change s)) (scopes : List Scope) :
    List.Forall₂ Scope.Fades scopes (Vars.changeFirst name change scopes) := by
  induction scopes with
  | nil => exact .nil
  | cons s scopes ih =>
    rw [Vars.changeFirst]
    split
    · rename_i hhas
      exact .cons (h s hhas) (fades_refl scopes)
    · exact .cons (.refl s) ih

theorem isSome_find?_iff {name : String} : (Vars.find? name scopes).isSome = true ↔
    ∃ s ∈ scopes, Bindings.has s name = true := by
  unfold Vars.find? Bindings.has
  rw [List.findSome?_isSome_iff]

/-- A name in sight was in sight before, if no scope has made a name. -/
theorem Vars.Fades.contains (h : v.Fades v') {name : String} (hname : v'.contains name = true) :
    v.contains name = true := by
  have hscopes := h.scopes
  rw [Vars.contains, Vars.get?, isSome_find?_iff] at hname ⊢
  generalize v.scopes = scopes at hscopes ⊢
  generalize v'.scopes = scopes' at hscopes hname
  induction hscopes with
  | nil => exact hname
  | cons hs _ ih =>
    obtain ⟨s, hmem, hhas⟩ := hname
    rcases List.mem_cons.1 hmem with rfl | hmem
    · exact ⟨_, .head _, hs name hhas⟩
    · obtain ⟨t, ht, hhas⟩ := ih ⟨s, hmem, hhas⟩
      exact ⟨t, .tail _ ht, hhas⟩

theorem Vars.Fades.trans (h : v.Fades v') (h' : v'.Fades v'') : v.Fades v'' :=
  ⟨h'.flat_eq.trans h.flat_eq, fades_trans h.scopes h'.scopes⟩

namespace Vars.Keeps

theorem refl (v : Vars) : v.Keeps v := ⟨rfl, fades_refl _⟩

theorem trans (h : v.Keeps v') (h' : v'.Keeps v'') : v.Keeps v'' :=
  ⟨h'.flat_eq.trans h.flat_eq, fades_trans h.older h'.older⟩

theorem of_fades (h : v.Fades v') : v.Keeps v' := ⟨h.flat_eq, (List.forall₂_cons.1 h.scopes).2⟩

theorem depth_eq (h : v.Keeps v') : v'.depth = v.depth := by
  rw [Vars.depth, Vars.depth, Vars.scopes, Vars.scopes, List.length_cons, List.length_cons,
    h.older.length_eq]

theorem put (v : Vars) (name value : String) : v.Keeps (v.put name value) := by
  unfold Vars.put
  split
  · exact ⟨rfl, fades_refl _⟩
  · exact ⟨rfl, fades_changeFirst (fun _ => fades_put) _⟩

theorem erase (v : Vars) (name : String) : v.Keeps (v.erase name) := by
  unfold Vars.erase
  split
  · exact ⟨rfl, fades_refl _⟩
  · exact ⟨rfl, fades_changeFirst (fun s _ => fades_erase s name) _⟩

theorem putAll (cells : Row) (v : Vars) :
    v.Keeps (cells.foldl (fun v c => v.put c.1 c.2) v) := by
  induction cells generalizing v with
  | nil => exact .refl v
  | cons c cells ih => exact (put v c.1 c.2).trans (ih _)

/-- When the scope of a row is left again, no scope has made a name. -/
theorem pop (h : v.push.Keeps v') (hpop : v'.pop = .ok v'') (hscoped : v.flat = false) :
    v.Fades v'' := by
  have hflat : v'.flat = false := by rw [h.flat_eq, Vars.push, hscoped]; rfl
  have holder := h.older
  rw [Vars.push, hscoped] at holder
  rw [Vars.pop, hflat] at hpop
  cases hlower : v'.older with
  | nil => rw [hlower] at hpop; cases hpop
  | cons scope older =>
    rw [hlower] at hpop holder
    cases hpop
    exact ⟨hscoped.symm, holder⟩

/-- A row leaves the scopes below it as they were, but for names that it has removed; where no
scopes are made, it works on those that there are. -/
theorem row (h : v.push.Keeps v') (hpop : v'.pop = .ok v'') : v.Keeps v'' := by
  cases hscoped : v.flat with
  | false => exact .of_fades (pop h hpop hscoped)
  | true =>
    have hpush : v.push = v := by rw [Vars.push, hscoped]; rfl
    rw [hpush] at h
    rw [Vars.pop, h.flat_eq, hscoped] at hpop
    cases hpop
    exact h

end Vars.Keeps

end Scopes

/-! ## Tours -/

namespace Stay

/-- An event binds a name that was not in sight before. -/
def Binds (stay : Stay σ) (name : String) : Prop :=
  stay.before.session.vars.contains name = false ∧ stay.carried.session.vars.contains name = true

mutual

/-- A stay and those within it, but for those in the rows of a table. -/
def outsideRows : Stay σ → List (Stay σ)
  | stay@⟨visit, _, _, within, _⟩ =>
    stay :: if visit.event.kind = .command .csv then [] else outsideRowsOf within

/-- The given stays and those within them, but for those in the rows of a table. -/
def outsideRowsOf : List (Stay σ) → List (Stay σ)
  | [] => []
  | stay :: stays => stay.outsideRows ++ outsideRowsOf stays

end

theorem outsideRows_eq (stay : Stay σ) : stay.outsideRows =
    stay :: if stay.event.kind = .command .csv then [] else outsideRowsOf stay.within := by
  cases stay
  rw [outsideRows]
  rfl

theorem outsideRowsOf_append (stays stays' : List (Stay σ)) :
    outsideRowsOf (stays ++ stays') = outsideRowsOf stays ++ outsideRowsOf stays' := by
  induction stays with
  | nil => rw [outsideRowsOf, List.nil_append, List.nil_append]
  | cons stay stays ih =>
    rw [List.cons_append, outsideRowsOf, outsideRowsOf, ih, List.append_assoc]

theorem outsideRowsOf_singleton (stay : Stay σ) : outsideRowsOf [stay] =
    stay :: if stay.event.kind = .command .csv then [] else outsideRowsOf stay.within := by
  rw [outsideRowsOf, outsideRowsOf, List.append_nil, outsideRows_eq]

end Stay

section Tours

variable {o : Outside σ} {setup : Setup} {m m' : Moment σ} {event : Event}
  {parent : Option Element} {stays : List (Stay σ)} {r : Except Error Unit}

theorem keeps_edited {C : Edit → Prop} {s s' : Session} (h : s.Edited C s') :
    s.vars.Keeps s'.vars := by
  refine h.keeps (P := fun t => s.vars.Keeps t.vars) (fun t e _ ht => ?_) (.refl _)
  cases e with
  | putVar name value => exact ht.trans (.put _ name value)
  | eraseVar name => exact ht.trans (.erase _ name)
  | _ => exact ht

/-- An event that has been opened keeps the scopes below the newest. -/
theorem keeps_openEvent {result : Except Mishap Opened} {carried : Moment σ}
    (h : Stretch.Comes o (Passage.openEvent setup event parent).run (m.starting event parent) result
      carried) : m.session.vars.Keeps carried.session.vars :=
  keeps_edited (h.of_leads (Stretch.edited_openEvent event parent))

theorem vars_settle {result : Except Mishap Opened} {done left : Moment σ}
    (h : Stretch.Comes o (Journey.settle setup event result).run done r left) :
    left.session.vars = done.session.vars :=
  (h.of_leads (Stretch.edited_settle event result)).setsWindow.1

theorem vars_finish {element : Option Element} {left after : Moment σ}
    (h : Stretch.Comes o (Journey.finish setup event element).run left r after) :
    after.session.vars = left.session.vars :=
  congrArg Session.vars (h.of_leads (Journey.adds_finish event element)).1

theorem vars_report {failure : Failure} {m₁ : Moment σ}
    (h : Stretch.Comes o (Journey.report event failure).run m r m₁) :
    m₁.session.vars = m.session.vars :=
  congrArg Session.vars (h.of_leads (Stretch.still_report event failure)).1

/-- A tour keeps the scopes below the newest. -/
theorem spans_keeps (setup : Setup) (o : Outside σ) :
    Tour.Spans setup o fun m _ _ m' => m.session.vars.Keeps m'.session.vars where
  refl m := .refl _
  trans hhere hlater _ _ := hhere.trans hlater
  skips _ := .refl _
  row {m cells here r m₁ vars} _ hpop h := Vars.Keeps.row ((Vars.Keeps.putAll cells _).trans h) hpop
  halts h hreport := by rw [vars_report hreport]; exact h
  finishes hopen _ h hsettle hfinish := by
    rw [vars_finish hfinish, vars_settle hsettle]
    exact (keeps_openEvent hopen).trans h
  loses hopen _ h hsettle := by
    rw [vars_settle hsettle]
    exact (keeps_openEvent hopen).trans h
  unwinds hopen _ h := (keeps_openEvent hopen).trans h

/-- **Rows bring no name into sight.** -/
theorem fades_rows {children : List Event} {rows : List Row}
    (h : Tour setup o (.rows children parent rows) m stays r m')
    (hscoped : m.session.vars.flat = false) : m.session.vars.Fades m'.session.vars := by
  have hrow {cells : Row} {here : List (Stay σ)} {r : Except Error Unit} {m m₁ : Moment σ}
      {vars : Vars} (hhere : Tour setup o (.siblings children parent) (m.entering cells) here r m₁)
      (hpop : m₁.session.vars.pop = .ok vars) (hscoped : m.session.vars.flat = false) :
      m.session.vars.Fades vars :=
    Vars.Keeps.pop ((Vars.Keeps.putAll cells _).trans (hhere.spans (spans_keeps setup o))) hpop
      hscoped
  induction rows generalizing m stays with
  | nil =>
    cases h
    exact ⟨rfl, fades_refl _⟩
  | cons cells rows ih =>
    cases h with
    | nextRow _ hhere hpop hlater =>
      have hfades := hrow hhere hpop hscoped
      exact hfades.trans (ih hlater (hfades.flat_eq.trans hscoped))
    | stoppedRow _ => exact ⟨rfl, fades_refl _⟩
    | endedRow _ hhere hpop => exact hrow hhere hpop hscoped

/-- The children of a table event are run for its rows and not once more. -/
theorem lastChildren_table (hkind : event.kind = .command .csv) : event.lastChildren = [] := by
  rw [Event.lastChildren, Event.descends, hkind]
  simp [Kind.can, Kind.capabilities]

/-- All that belongs to a table event are its rows, which bring no name into sight. -/
theorem fades_within {result : Except Mishap Opened} {carried : Moment σ}
    (hkind : event.kind = .command .csv)
    (hopen : Stretch.Comes o (Passage.openEvent setup event parent).run (m.starting event parent)
      result carried)
    (hwithin : Tour setup o (.within event parent result) carried stays r m')
    (hscoped : carried.session.vars.flat = false) :
    carried.session.vars.Fades m'.session.vars := by
  have hrows {opened : Opened} (hresult : result = .ok opened) :
      ∃ rows, opened.inner = .rows rows := by
    have hopens := (hopen.of_leads (Stretch.visits_openEvent event parent)).2.2 opened hresult
    cases hopens with
    | rows | noRows => exact ⟨_, rfl⟩
    | element hcan => rw [hkind] at hcan; cases hcan
    | frame hframe => rw [hkind] at hframe; cases hframe
    | script hscript => rw [hkind] at hscript; cases hscript
    | command c _ hcommand hne => rw [hkind] at hcommand; cases hcommand; exact absurd rfl hne
  cases hwithin with
  | failed => exact ⟨rfl, fades_refl _⟩
  | opened hinner hbelow =>
    obtain ⟨rows, heq⟩ := hrows rfl
    rw [heq] at hinner
    rw [lastChildren_table hkind] at hbelow
    cases hbelow
    exact fades_rows hinner hscoped
  | halted hinner hreport =>
    obtain ⟨rows, heq⟩ := hrows rfl
    rw [heq] at hinner
    rw [vars_report hreport]
    exact fades_rows hinner hscoped

/-- Each name in sight at the second point was so at the first one, or one of the stays in between,
which lies outside all rows, has bound it. -/
def Moment.Names (m : Moment σ) (stays : List (Stay σ)) (m' : Moment σ) : Prop :=
  ∀ name, m'.session.vars.contains name = true → m.session.vars.contains name = true ∨
    ∃ stay ∈ Stay.outsideRowsOf stays, stay.Binds name

theorem Moment.Names.trans {m₁ : Moment σ} {here later : List (Stay σ)} (h : m.Names here m₁)
    (h' : m₁.Names later m') : m.Names (here ++ later) m' := by
  intro name hname
  rw [Stay.outsideRowsOf_append]
  rcases h' name hname with hbefore | ⟨stay, hmem, hbinds⟩
  · rcases h name hbefore with hbefore | ⟨stay, hmem, hbinds⟩
    · exact .inl hbefore
    · exact .inr ⟨stay, List.mem_append_left _ hmem, hbinds⟩
  · exact .inr ⟨stay, List.mem_append_right _ hmem, hbinds⟩

/-- A name that comes into sight while a run stays in an event is bound by the event itself, or
within it by an event outside all rows. -/
theorem names_stay {result : Except Mishap Opened} {carried done : Moment σ}
    {within : List (Stay σ)}
    (hopen : Stretch.Comes o (Passage.openEvent setup event parent).run (m.starting event parent)
      result carried)
    (hwithin : Tour setup o (.within event parent result) carried within r done)
    (hscoped : carried.session.vars.flat = false) (h : carried.Names within done)
    (departure : Option (Departure σ)) :
    m.Names [⟨⟨event, parent, result⟩, m, carried, within, departure⟩] done := by
  intro name hname
  rw [Stay.outsideRowsOf_singleton]
  have hitself (hcarried : carried.session.vars.contains name = true) {stays : List (Stay σ)} :
      m.session.vars.contains name = true ∨
        ∃ stay ∈ ⟨⟨event, parent, result⟩, m, carried, within, departure⟩ :: stays,
          stay.Binds name := by
    cases hbefore : m.session.vars.contains name with
    | true => exact .inl rfl
    | false => exact .inr ⟨_, .head _, hbefore, hcarried⟩
  split
  · rename_i hkind
    exact hitself ((fades_within hkind hopen hwithin hscoped).contains hname)
  · rcases h name hname with hcarried | ⟨stay, hmem, hbinds⟩
    · exact hitself hcarried
    · exact .inr ⟨stay, .tail _ hmem, hbinds⟩

/-- **A name that comes into sight on a tour has been bound by an event outside all rows.** -/
theorem spans_names (setup : Setup) (o : Outside σ) :
    Tour.Spans setup o fun m stays _ m' => m.session.vars.Keeps m'.session.vars ∧
      (m.session.vars.flat = false → m.Names stays m') where
  refl m := ⟨.refl _, fun _ _ hname => .inl hname⟩
  trans hhere hlater _ _ := ⟨hhere.1.trans hlater.1, fun hscoped =>
    (hhere.2 hscoped).trans (hlater.2 (hhere.1.flat_eq.trans hscoped))⟩
  skips _ := ⟨.refl _, fun _ _ hname => .inl hname⟩
  row {m cells here r m₁ vars} _ hpop h := by
    have hkeeps : m.session.vars.push.Keeps m₁.session.vars :=
      (Vars.Keeps.putAll cells _).trans h.1
    exact ⟨hkeeps.row hpop, fun hscoped _ hname => .inl ((hkeeps.pop hpop hscoped).contains hname)⟩
  halts h hreport := by
    refine ⟨by rw [vars_report hreport]; exact h.1, fun hscoped name hname => ?_⟩
    rw [vars_report hreport] at hname
    exact h.2 hscoped name hname
  finishes hopen hwithin h hsettle hfinish := by
    have hcarried := keeps_openEvent hopen
    have hafter := (vars_finish hfinish).trans (vars_settle hsettle)
    refine ⟨by rw [hafter]; exact hcarried.trans h.1, fun hscoped name hname => ?_⟩
    have hscoped := hcarried.flat_eq.trans hscoped
    rw [hafter] at hname
    exact names_stay hopen hwithin hscoped (h.2 hscoped) _ name hname
  loses hopen hwithin h hsettle := by
    have hcarried := keeps_openEvent hopen
    have hleft := vars_settle hsettle
    refine ⟨by rw [hleft]; exact hcarried.trans h.1, fun hscoped name hname => ?_⟩
    have hscoped := hcarried.flat_eq.trans hscoped
    rw [hleft] at hname
    exact names_stay hopen hwithin hscoped (h.2 hscoped) _ name hname
  unwinds hopen hwithin h := by
    have hcarried := keeps_openEvent hopen
    refine ⟨hcarried.trans h.1, fun hscoped => ?_⟩
    have hscoped := hcarried.flat_eq.trans hscoped
    exact names_stay hopen hwithin hscoped (h.2 hscoped) _

end Tours

/-! ## Lists of events -/

section Lists

variable {o : Outside σ}

/-- The scope of a row can always be left: whatever has become of the children of a table event,
this is no reason for the event to fail. -/
theorem underflows_forRows (setup : Setup) (o : Outside σ) (depth : Nat) (children : List Event)
    (parent : Option Element) (rows : List Row) (s : Session) (w : World σ) :
    Stretch.Leads o (Detour.forRows (Journey.visit setup depth children parent) rows).run s w
      fun r _ _ => ∀ m, r ≠ .error (.own m) := by
  have hunwinds := (sustained_trivial setup o).unwinds.visit depth [] children parent
  refine (Journey.tours_forRows (Journey.tours_visit depth children parent) hunwinds.steady
    rows).mono ?_
  rintro _ _ _ ⟨_, r, rfl, -⟩ m heq
  cases r <;> cases heq

/-- The variables that a run starts with are kept in scopes. -/
theorem flat_session (setup : Setup) (calendar : Calendar) :
    (setup.session calendar).vars.flat = false := by
  have hputs (globals : Scope) (v : Vars) :
      (globals.foldl (fun v p => v.put ("global." ++ p.1) p.2) v).flat = v.flat := by
    induction globals generalizing v with
    | nil => rfl
    | cons p globals ih =>
      rw [List.foldl_cons, ih, Vars.flat_put]
  rw [Setup.session, Setup.initialVars, hputs, Vars.flat_put, Vars.flat_put]

/-- **A list of events leaves the scopes as it has found them**, whatever the outside does, also
where the run is stopped or the browser is lost on the way. There are as many scopes as before; the
scope of a row can always be left, so that no event fails for an underflow but one that passes on
what a plugin or the loader has answered; and a name in sight that was not so before has been bound
by an event outside all rows. -/
theorem scopes_of_visit (setup : Setup) (o : Outside σ) (depth : Nat) (events : List Event)
    (parent : Option Element) (s : Session) (w : World σ) (hscoped : s.vars.flat = false) :
    (Stretch.Leads o (Journey.visit setup depth events parent).run s w fun r s' w' =>
      s'.vars.flat = false ∧ s'.vars.depth = s.vars.depth ∧
        w.Adds (Happening.Sound setup o) w' ∧
        ∃ stays, Tour setup o (.siblings events parent) ⟨s, w⟩ stays r ⟨s', w'⟩ ∧
          ∀ name, s'.vars.contains name = true → s.vars.contains name = false →
            ∃ stay ∈ Stay.outsideRowsOf stays, stay.Binds name) ∧
    ∀ depth children parent rows s w,
      Stretch.Leads o (Detour.forRows (Journey.visit setup depth children parent) rows).run s w
        fun r _ _ => ∀ m, r ≠ .error (.own m) := by
  refine ⟨(Journey.tours_visit depth events parent s w).mono ?_, underflows_forRows setup o⟩
  rintro r s' w' ⟨stays, htour⟩
  obtain ⟨hkeeps, hnames⟩ := htour.spans (spans_names setup o)
  refine ⟨hkeeps.flat_eq.trans hscoped, hkeeps.depth_eq,
    htour.spans (Stretch.spans_sound setup o), stays, htour, fun name hname hnew => ?_⟩
  rcases hnames hscoped name hname with hbefore | hbound
  · rw [hnew] at hbefore
    cases hbefore
  · exact hbound

/-- An outside that knows one table, with a row, and loses the browser at every call. -/
def Outside.tabled : Outside Unit
  | .call _, s => .answer s (.error (.sessionLost "gone"))
  | .readFile _, s => .answer s (.ok "a\n1")
  | _, s => { start := s, ending := none }

/-- One variable is assigned outside and another one inside a row, in which the browser is lost. -/
def Event.scoped : List Event :=
  [{ kind := .command .var, name := "var", actions := ⟨[("var", .text "x")]⟩ },
   { kind := .command .csv, name := "csv", actions := ⟨[("file", .text "table.csv")]⟩,
     children := [{ kind := .command .var, name := "var", actions := ⟨[("var", .text "y")]⟩ },
       { kind := .command .browser, name := "browser", actions := ⟨[("action", .text "back")]⟩ }] }]

/-- A session and a world for events to run in. -/
def Moment.small : Moment Unit where
  session := Setup.small.session ⟨2020, 1, 1, 0, 0, 0⟩
  world := World.opened .small ⟨2020, 1, 1, 0, 0, 0⟩ none [] ()

/-- Though the browser is lost in the row there is one scope as before, and the only new name is the
one from outside the row. -/
theorem scopes_of_visit_scoped : Moment.small.session.vars.flat = false ∧
    ∃ r s' w', World.run .tabled
        ((Journey.visit .small 1 Event.scoped none).run Moment.small.session) Moment.small.world =
          some ((r, s'), w') ∧
      r = .error (.browser (.sessionLost "gone")) ∧ s'.vars.depth = 1 ∧
      s'.vars.contains "x" = true ∧ s'.vars.contains "y" = false ∧
      s'.vars.depth = Moment.small.session.vars.depth ∧
      ∃ stays, Tour .small .tabled (.siblings Event.scoped none) Moment.small stays r ⟨s', w'⟩ ∧
        ∃ stay ∈ Stay.outsideRowsOf stays, stay.Binds "x" := by
  have hresult : (World.run .tabled
      ((Journey.visit .small 1 Event.scoped none).run Moment.small.session)
        Moment.small.world).map (fun p => (p.1.1, p.1.2.vars.depth, p.1.2.vars.contains "x",
          p.1.2.vars.contains "y", Moment.small.session.vars.contains "x")) =
      some (.error (.browser (.sessionLost "gone")), 1, true, false, false) := by
    decide +kernel
  have hscoped := flat_session .small ⟨2020, 1, 1, 0, 0, 0⟩
  obtain ⟨⟨⟨r, s'⟩, w'⟩, hrun, hshown⟩ := Option.map_eq_some_iff.1 hresult
  simp only [Prod.mk.injEq] at hshown
  obtain ⟨rfl, hdepth, hx, hy, hnew⟩ := hshown
  obtain ⟨-, hdepth', -, stays, htour, hnames⟩ :=
    (scopes_of_visit .small .tabled 1 Event.scoped none _ _ hscoped).1 _ _ hrun
  exact ⟨hscoped, _, s', w', hrun, rfl, hdepth, hx, hy, hdepth', stays, htour, hnames "x" hx hnew⟩

end Lists
end PageScript
