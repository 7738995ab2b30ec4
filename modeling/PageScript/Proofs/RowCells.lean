import PageScript.Proofs.ScopeLevels
import PageScript.Proofs.RowScopes

/-!
# What rows leave behind

A row binds its cells in a scope of its own, but it binds them as events do: a cell whose name is
bound further out gets its value there, and when the scope of the row is left that value stays. So
a row is not quite on its own. Seen from outside, all that a table does to the variables is to
assign the cells whose names are bound already: those of a variable of that name, of a row around
it, or of an earlier table.

`Vars.overwrite` is what is left of one cell. What is left of a row is what is left of its cells,
since a scope above that binds only names which are not bound below hides nothing
(`Vars.Above`). An induction on the tour puts the rows together, also those of tables within tables
and those of a table that the end of the run cuts short. The cells are those that the history tells
of.
-/

namespace PageScript

/-! ## What is left of a cell -/

namespace Vars

variable {v u : Vars} {name value : String}

/-- Assigns a cell as it is seen from outside its row: a name that is new is gone with the scope of
the row. While the stack is flat there is no such scope. -/
def overwrite (v : Vars) (cell : String × String) : Vars :=
  if v.flat || v.contains cell.1 then v.put cell.1 cell.2 else v

/-- Assigns cells as they are seen from outside their rows; the newest cell comes first. -/
def overwriteAll (v : Vars) (cells : List (String × String)) : Vars :=
  cells.foldr (fun cell v => v.overwrite cell) v

theorem overwrite_eq_put (cell : String × String) (h : v.flat = true ∨ v.contains cell.1 = true) :
    v.overwrite cell = v.put cell.1 cell.2 :=
  if_pos (by simpa using h)

theorem overwrite_eq_self (cell : String × String) (hflat : v.flat = false)
    (h : v.contains cell.1 = false) : v.overwrite cell = v :=
  if_neg (by simp [hflat, h])

@[simp] theorem flat_overwrite (v : Vars) (cell : String × String) :
    (v.overwrite cell).flat = v.flat := by
  unfold overwrite
  split
  · exact flat_put ..
  · rfl

@[simp] theorem depth_overwrite (v : Vars) (cell : String × String) :
    (v.overwrite cell).depth = v.depth := by
  unfold overwrite
  split
  · exact depth_put ..
  · rfl

theorem get?_overwrite (v : Vars) (cell : String × String) (name : String) :
    (v.overwrite cell).get? name =
      if name = cell.1 ∧ (v.flat || v.contains name) then some cell.2 else v.get? name := by
  by_cases h : v.flat = true ∨ v.contains cell.1 = true
  · rw [overwrite_eq_put cell h, get?_put]
    by_cases heq : name = cell.1
    · subst heq
      rw [if_pos rfl, if_pos ⟨rfl, by simpa using h⟩]
    · rw [if_neg heq, if_neg fun hboth => heq hboth.1]
  · obtain ⟨hflat, hnone⟩ : v.flat = false ∧ v.contains cell.1 = false := by simpa using h
    rw [overwrite_eq_self cell hflat hnone, if_neg]
    rintro ⟨rfl, hbound⟩
    simp [hflat, hnone] at hbound

theorem overwriteAll_append (v : Vars) (later earlier : List (String × String)) :
    v.overwriteAll (later ++ earlier) = (v.overwriteAll earlier).overwriteAll later :=
  List.foldr_append

@[simp] theorem flat_overwriteAll (v : Vars) (cells : List (String × String)) :
    (v.overwriteAll cells).flat = v.flat := by
  induction cells with
  | nil => rfl
  | cons cell cells ih => exact (flat_overwrite _ cell).trans ih

@[simp] theorem depth_overwriteAll (v : Vars) (cells : List (String × String)) :
    (v.overwriteAll cells).depth = v.depth := by
  induction cells with
  | nil => rfl
  | cons cell cells ih => exact (depth_overwrite _ cell).trans ih

/-- A name that is bound has the value of the last cell of that name, if there is one; a name that
is not bound stays so. -/
theorem get?_overwriteAll (v : Vars) (cells : List (String × String)) (name : String) :
    (v.overwriteAll cells).get? name =
      if v.flat || v.contains name then (cells.lookup name).or (v.get? name) else none := by
  induction cells with
  | nil =>
    by_cases h : (v.flat || v.contains name) = true
    · rw [if_pos h]
      rfl
    · have hnone : v.get? name = none := by
        simp only [contains, Bool.or_eq_true, not_or, Bool.not_eq_true] at h
        simpa using h.2
      rw [if_neg h]
      exact hnone
  | cons cell cells ih =>
    have hstep := get?_overwrite (v.overwriteAll cells) cell name
    rw [flat_overwriteAll, contains, ih] at hstep
    have hlookup : List.lookup name (cell :: cells) =
        if name = cell.1 then some cell.2 else cells.lookup name :=
      Bindings.get?_cons cell cells name
    show ((v.overwriteAll cells).overwrite cell).get? name = _
    rw [hstep, hlookup]
    by_cases h : (v.flat || v.contains name) = true
    · by_cases heq : name = cell.1
      · have hbound : (v.flat || ((cells.lookup name).or (v.get? name)).isSome) = true := by
          simp only [contains, Bool.or_eq_true] at h ⊢
          rcases h with h | h
          · exact .inl h
          · exact .inr (by simp [h])
        rw [if_pos h, if_pos ⟨heq, hbound⟩, if_pos h, if_pos heq, Option.some_or]
      · rw [if_neg fun hboth => heq hboth.1, if_pos h, if_pos h, if_neg heq]
    · have hflat : v.flat = false := by
        simp only [Bool.or_eq_true, not_or, Bool.not_eq_true] at h
        exact h.1
      rw [if_neg h, if_neg h, if_neg]
      simp [hflat]

/-- Cells whose names are not bound leave nothing behind. -/
theorem overwriteAll_eq_self (hflat : v.flat = false) {cells : List (String × String)}
    (h : ∀ cell ∈ cells, v.contains cell.1 = false) : v.overwriteAll cells = v := by
  induction cells with
  | nil => rfl
  | cons cell cells ih =>
    have hrest : v.overwriteAll cells = v := ih fun other hother => h other (.tail _ hother)
    show (v.overwriteAll cells).overwrite cell = v
    rw [hrest]
    exact overwrite_eq_self cell hflat (h cell (.head _))

/-! ## The scope of a row -/

/-- One stack is another with a scope above it that binds none of its names. -/
structure Above (v u : Vars) : Prop where
  flat : v.flat = false
  flat' : u.flat = false
  older : u.older = v.scopes
  fresh : ∀ name, u.newest.has name = true → v.contains name = false

namespace Above

theorem push (hflat : v.flat = false) : v.Above v.push := by
  rw [Vars.push, hflat]
  exact ⟨hflat, rfl, rfl, fun name hname => by simp [Bindings.has] at hname⟩

theorem pop (h : v.Above u) : u.pop = .ok v := by
  obtain ⟨newest, older, flat⟩ := v
  have hflat : flat = false := h.flat
  rw [Vars.pop, h.flat', h.older, hflat]
  rfl

theorem contains_eq (h : v.Above u) (name : String) :
    u.contains name = (u.newest.has name || v.contains name) := by
  rw [contains, get?, scopes, find?_cons, h.older, Option.isSome_or]
  rfl

/-- A value goes where its name is bound: below if it is bound there, and above if not. -/
theorem put (h : v.Above u) (cell : String × String) :
    (v.overwrite cell).Above (u.put cell.1 cell.2) := by
  obtain ⟨name, value⟩ := cell
  by_cases hbelow : v.contains name = true
  · have hnew : u.newest.has name = false := by
      cases hnew : u.newest.has name with
      | false => rfl
      | true => exact absurd (h.fresh name hnew) (by simp [hbelow])
    have hbound : u.contains name = true := by rw [h.contains_eq, hbelow, Bool.or_true]
    have hput : u.put name value =
        { u with older := changeFirst name (·.put name value) u.older } := by
      rw [Vars.put, if_neg (by simp [hnew, hbound])]
    rw [overwrite_eq_put (name, value) (.inr hbelow), hput]
    refine ⟨(flat_put ..).trans h.flat, h.flat', ?_, fun other hother => ?_⟩
    · rw [scopes_put, if_pos hbelow, h.older]
    · have hne : other ≠ name := by
        rintro rfl
        rw [hnew] at hother
        cases hother
      rw [contains, get?_put, if_neg hne]
      exact h.fresh other hother
  · have hnone : v.contains name = false := by simpa using hbelow
    have hput : u.put name value = { u with newest := u.newest.put name value } := by
      rw [Vars.put, if_pos]
      rw [h.contains_eq, hnone]
      cases u.newest.has name <;> rfl
    rw [overwrite_eq_self (name, value) h.flat hnone, hput]
    refine ⟨h.flat, h.flat', h.older, fun other hother => ?_⟩
    rcases has_put_iff.1 hother with rfl | hother
    · exact hnone
    · exact h.fresh other hother

theorem putAll (h : v.Above u) (row : Row) :
    (v.overwriteAll row.reverse).Above (row.foldl (fun u cell => u.put cell.1 cell.2) u) := by
  rw [overwriteAll, List.foldr_reverse]
  induction row generalizing v u with
  | nil => exact h
  | cons cell row ih => exact ih (h.put cell)

theorem overwrite (h : v.Above u) (cell : String × String) :
    (v.overwrite cell).Above (u.overwrite cell) := by
  by_cases hbound : u.contains cell.1 = true
  · rw [overwrite_eq_put (v := u) cell (.inr hbound)]
    exact h.put cell
  · have hnone : u.contains cell.1 = false := by simpa using hbound
    have hbelow := hnone
    rw [h.contains_eq, Bool.or_eq_false_iff] at hbelow
    rw [overwrite_eq_self cell h.flat hbelow.2, overwrite_eq_self cell h.flat' hnone]
    exact h

theorem overwriteAll (h : v.Above u) (cells : List (String × String)) :
    (v.overwriteAll cells).Above (u.overwriteAll cells) := by
  induction cells with
  | nil => exact h
  | cons cell cells ih => exact ih.overwrite cell

end Above

/-- What is left of a row when its scope is left, and of what has been left of other rows in it. -/
theorem pop_row (v : Vars) (row : Row) (cells : List (String × String)) :
    ((row.foldl (fun v cell => v.put cell.1 cell.2) v.push).overwriteAll cells).pop =
      .ok (v.overwriteAll (cells ++ row.reverse)) := by
  rw [overwriteAll_append]
  cases hflat : v.flat with
  | false => exact (((Above.push hflat).putAll row).overwriteAll cells).pop
  | true =>
    -- a flat stack makes no scope for the row, so that all of its cells are left behind
    have hpush : v.push = v := by rw [push, hflat, if_pos rfl]
    have hrow : row.foldl (fun v cell => v.put cell.1 cell.2) v = v.overwriteAll row.reverse := by
      rw [overwriteAll, List.foldr_reverse]
      clear hpush
      induction row generalizing v with
      | nil => rfl
      | cons cell row ih =>
        rw [List.foldl_cons, List.foldl_cons, overwrite_eq_put cell (.inl hflat)]
        exact ih _ ((flat_put ..).trans hflat)
    rw [hpush, hrow, pop, flat_overwriteAll, flat_overwriteAll, hflat]
    rfl

end Vars

/-! ## Cells in a history -/

/-- The cells that are bound as a row begins, the newest first. -/
def Happening.cells : Happening → List (String × String)
  | .stage (.row cells) => cells.reverse
  | _ => []

/-- The cells of all rows that a history tells of, the newest first. -/
def cellsOf (history : List Happening) : List (String × String) :=
  history.flatMap Happening.cells

section Histories

variable {σ : Type} {o : Outside σ} {setup : Setup} {event : Event} {parent : Option Element}
  {s : Session} {w w' : World σ} {m m' m'' : Moment σ} {h : Happening}

theorem cellsOf_append (later earlier : List Happening) :
    cellsOf (later ++ earlier) = cellsOf later ++ cellsOf earlier :=
  List.flatMap_append

/-- Something that is not the beginning of a row. -/
def Happening.Rowless (h : Happening) : Prop := h.cells = []

theorem rowless_passing (hpassing : h.Passing) : h.Rowless := by
  rcases h with (_ | _ | _ | _ | _) | _ <;> first | rfl | cases hpassing

theorem rowless_aside (haside : h.Aside) : h.Rowless := by
  cases haside with
  | passing hpassing => exact rowless_passing hpassing
  | occasion _ => rfl
  | plugin _ hplugin => cases hplugin <;> rfl

theorem rowless_telling (htelling : Journey.Telling h) : h.Rowless := by
  cases htelling with
  | failed event failure => rfl
  | remark r => exact rowless_passing (passing_remark r)

theorem rowless_settling (hsettling : Journey.Settling h) : h.Rowless :=
  match hsettling with
  | .aside haside => rowless_aside haside
  | .telling htelling => rowless_telling htelling

theorem rowless_tell {n : Notice} (hn : (Happening.notice n).Rowless) :
    w.Adds Happening.Rowless (w.tell n) :=
  .of_cons hn rfl

theorem rowless_pulse : w.Adds Happening.Rowless w.pulse :=
  .of_cons (h := .mark (.pulsed w.now)) rfl (World.history_pulse w)

theorem rowless_starting (m : Moment σ) (event : Event) (parent : Option Element) :
    m.world.Adds Happening.Rowless (m.starting event parent).world :=
  (rowless_tell (n := .stage (.started event parent)) rfl).trans rowless_pulse

theorem rowless_openEvent (event : Event) (parent : Option Element) :
    Stretch.Leads o (Passage.openEvent setup event parent).run s w fun _ _ w' =>
      w.Adds Happening.Rowless w' := by
  refine Kept.openEvent (P := w.Adds Happening.Rowless) (World.kept_of_asides
    (P := fun past => ∃ added, past = added ++ w.history ∧ ∀ h ∈ added, h.Rowless) ?_)
    (fun w' d h => ?_) (fun w' event result h => ?_) event parent (.refl _ w)
  · rintro h past haside ⟨added, rfl, hall⟩
    exact ⟨h :: added, rfl, List.forall_mem_cons.2 ⟨rowless_aside haside, hall⟩⟩
  · exact h.trans (.of_cons (h := .mark (.extended d)) rfl (World.history_extend w' d))
  · exact h.trans (rowless_tell rfl)

theorem rowless_finish (event : Event) (element : Option Element) :
    Stretch.Leads o (Journey.finish setup event element).run s w fun _ _ w' =>
      w.Adds Happening.Rowless w' := by
  refine (Journey.adds_finish event element).mono fun _ _ _ h => ?_
  have htold : w.Adds Happening.Rowless (w.pulse.tell (.stage (.finished event element))) :=
    rowless_pulse.trans (rowless_tell (n := .stage (.finished event element)) rfl)
  exact htold.trans (h.2.mono fun _ => rowless_aside)

/-! ## Rows on a tour -/

/-- All that has been done to the variables from one point of a run to another is that the cells of
the rows which have begun in between have been left behind. -/
def Moment.Overwrites (m m' : Moment σ) : Prop :=
  ∃ since, m'.world.history = since ++ m.world.history ∧
    m'.session.vars = m.session.vars.overwriteAll (cellsOf since)

namespace Moment.Overwrites

theorem of_adds (h : m.world.Adds Happening.Rowless m'.world)
    (hvars : m'.session.vars = m.session.vars) : m.Overwrites m' := by
  obtain ⟨since, hhistory, hrowless⟩ := h
  have hnone : cellsOf since = [] := List.flatMap_eq_nil_iff.2 hrowless
  refine ⟨since, hhistory, ?_⟩
  rw [hnone]
  exact hvars

theorem trans (h : m.Overwrites m') (h' : m'.Overwrites m'') : m.Overwrites m'' := by
  obtain ⟨since, hhistory, hvars⟩ := h
  obtain ⟨since', hhistory', hvars'⟩ := h'
  refine ⟨since' ++ since, by rw [hhistory', hhistory, List.append_assoc], ?_⟩
  rw [hvars', hvars, cellsOf_append, Vars.overwriteAll_append]

theorem row {cells : Row} {vars : Vars} (h : (m.entering cells).Overwrites m')
    (hpop : m'.session.vars.pop = .ok vars) : m.Overwrites (m'.withVars vars) := by
  obtain ⟨since, hhistory, hvars⟩ := h
  refine ⟨since ++ [.stage (.row cells)], ?_, ?_⟩
  · show m'.world.history = _
    rw [hhistory, List.append_assoc]
    rfl
  · -- the row's own cells came before those that its scope has been left with
    have hleft := Vars.pop_row m.session.vars cells (cellsOf since)
    have hpop' : (m.entering cells).session.vars.overwriteAll (cellsOf since) = m'.session.vars :=
      hvars.symm
    rw [Moment.entering] at hpop'
    rw [hpop', hpop] at hleft
    have hcells : cellsOf [Happening.stage (.row cells)] = cells.reverse := List.append_nil _
    rw [cellsOf_append, hcells]
    exact Except.ok.inj hleft

/-- An event that is carried out begins no row by itself. -/
theorem opened {result : Except Mishap Opened}
    (hopen : Stretch.Comes o (Passage.openEvent setup event parent).run (m.starting event parent)
      result m') (hvars : m'.session.vars = m.session.vars) : m.Overwrites m' :=
  .of_adds ((rowless_starting m event parent).trans (hopen.of_leads (rowless_openEvent _ _))) hvars

theorem settled {result : Except Mishap Opened} {r : Except Error Unit}
    (hsettle : Stretch.Comes o (Journey.settle setup event result).run m r m') :
    m.Overwrites m' :=
  .of_adds ((hsettle.of_leads (Journey.adds_settle _ _)).mono fun _ => rowless_settling)
    (vars_settle hsettle)

end Moment.Overwrites

/-- On a tour on which no event changes the variables itself, rows leave their cells behind. -/
theorem spans_overwrites (setup : Setup) (o : Outside σ) : Tour.Spans setup o fun m stays _ m' =>
    (∀ stay ∈ Stay.allOf stays, stay.carried.session.vars = stay.before.session.vars) →
      m.Overwrites m' where
  refl m _ := .of_adds (.refl _ _) rfl
  trans hhere hlater _ _ hspares := by
    rw [Stay.forall_allOf_append] at hspares
    exact (hhere hspares.1).trans (hlater hspares.2)
  skips _ _ := .of_adds ((World.adds_say _ _).mono fun _ => rowless_passing) rfl
  row _ hpop h hspares := (h hspares).row hpop
  halts h hreport hspares := by
    have hadds := (hreport.of_leads (Journey.adds_report _ _)).mono fun _ => rowless_telling
    exact (h hspares).trans (.of_adds hadds (vars_report hreport))
  finishes hopen _ h hsettle hfinish hspares := by
    rw [Stay.forall_allOf_singleton] at hspares
    have hwithin := (Moment.Overwrites.opened hopen hspares.1).trans (h hspares.2)
    have hfinished := hfinish.of_leads (rowless_finish _ _)
    exact (hwithin.trans (.settled hsettle)).trans (.of_adds hfinished (vars_finish hfinish))
  loses hopen _ h hsettle hspares := by
    rw [Stay.forall_allOf_singleton] at hspares
    have hwithin := (Moment.Overwrites.opened hopen hspares.1).trans (h hspares.2)
    exact hwithin.trans (.settled hsettle)
  unwinds hopen _ h hspares := by
    rw [Stay.forall_allOf_singleton] at hspares
    exact (Moment.Overwrites.opened hopen hspares.1).trans (h hspares.2)

/-! ## Table events -/

/-- An edit that leaves the variables as they are. -/
def Edit.SparesVars (e : Edit) : Prop := ∀ s : Session, (s.edit e).vars = s.vars

theorem Session.Edited.sparesVars {s s' : Session} (h : s.Edited Edit.SparesVars s') :
    s'.vars = s.vars :=
  h.keeps (P := fun t => t.vars = s.vars) (fun t _ he ht => (he t).trans ht) rfl

namespace Stretch

variable {C : Edit → Prop}

theorem edited_say (r : Remark) :
    Leads o (Act.play setup (Act.say r)) s w fun _ s' _ => s.Edited C s' :=
  edited_play_move (m := .say r) fun _ heq => by cases heq

theorem edited_fill? (raw : Option String) :
    Leads o (Act.play setup (Act.fill? setup raw)) s w fun _ s' _ => s.Edited C s' := by
  cases raw with
  | none => exact leads_play_pure _ |>.2 .refl
  | some raw =>
    have hfill (s : Session) (w : World σ) :
        Leads o (Act.play setup (Act.fill setup raw)) s w fun _ s' _ => s.Edited C s' :=
      edited_bind (edited_play_move (m := .session) fun _ heq => by cases heq) fun _ _ _ =>
        leads_play_pure _ |>.2 .refl
    exact edited_bind (hfill s w) fun _ _ _ => leads_play_pure _ |>.2 .refl

theorem edited_readFile (path : String) :
    Leads o (Act.play setup (Act.readFile path)) s w fun _ s' _ => s.Edited C s' := by
  refine edited_bind (edited_step _) fun r s w => ?_
  cases r with
  | ok text => exact leads_play_pure _ |>.2 .refl
  | error e => exact leads_play_fail _ |>.2 .refl

theorem edited_chooseTable (hpending : ∀ file, C (.setPendingTable file)) (event : Event) :
    Leads o (Act.play setup (Act.chooseTable setup event)) s w fun _ s' _ => s.Edited C s' := by
  refine edited_bind (edited_play_move (m := .session) fun _ heq => by cases heq)
    fun seen s w => ?_
  cases seen.pendingTable with
  | some file =>
    refine edited_bind (edited_play_move fun e heq => ?_) fun _ _ _ => leads_play_pure _ |>.2 .refl
    cases heq
    exact hpending none
  | none =>
    refine edited_bind (edited_fill? (event.actions.text? "file")) fun text s w => ?_
    cases text with
    | some file => exact leads_play_pure _ |>.2 .refl
    | none => exact leads_play_fail _ |>.2 .refl

/-- All that a table event may change itself is which file the next one reads. -/
theorem edited_csv (hpending : ∀ file, C (.setPendingTable file)) (event : Event) :
    Leads o (Act.play setup (Act.csv setup event)) s w fun _ s' _ => s.Edited C s' := by
  refine edited_bind (edited_fill? (event.actions.text? "override")) fun override s w => ?_
  cases override with
  | some file =>
    refine edited_bind (edited_say _) fun _ s w => ?_
    refine edited_bind (edited_play_move fun e heq => ?_) fun _ _ _ => leads_play_pure _ |>.2 .refl
    cases heq
    exact hpending (some file)
  | none =>
    refine edited_bind (edited_chooseTable hpending event) fun file s w => ?_
    refine edited_bind (edited_fill? (event.actions.text? "var")) fun name s w => ?_
    refine edited_bind (edited_readFile _) fun text s w => ?_
    exact edited_bind (edited_say _) fun _ _ _ => leads_play_pure _ |>.2 .refl

end Stretch

/-- A table event itself leaves the variables as they are. -/
theorem vars_openEvent_csv (hkind : event.kind = .command .csv) {result : Except Mishap Opened}
    (hopen : Stretch.Comes o (Passage.openEvent setup event parent).run (m.starting event parent)
      result m') : m'.session.vars = m.session.vars := by
  have hact : Stretch.Leads o (Passage.carryOut setup event parent).run m.session
      (m.starting event parent).world fun _ s' _ => m.session.Edited Edit.SparesVars s' := by
    rw [Passage.carryOut, hkind]
    dsimp only
    rw [Stretch.leads_run_bind, Passage.act, Stretch.leads_run_mk]
    have hpending (file : Option String) : Edit.SparesVars (.setPendingTable file) := fun _ => rfl
    refine (Stretch.edited_csv hpending event).mono fun r s' w' h => ?_
    cases r with
    | ok rows => exact Stretch.leads_run_pure _ |>.2 h
    | error mishap => exact h
  refine (hopen.of_leads (Q := fun _ s' _ => m.session.Edited Edit.SparesVars s') ?_).sparesVars
  rw [Passage.openEvent, Stretch.leads_run_bind, Stretch.leads_run_lift]
  refine hact.mono fun r s' w' h => ?_
  dsimp only
  rw [Stretch.leads_run_bind, Stretch.leads_passage_tell]
  exact Stretch.leads_pure r |>.2 h

/-- Between two points of a run rows have left cells behind. The scopes are as many as before. The
cells are those of the rows that have begun in between, the newest first: a name that was bound has
the value of the last cell of that name, or its own if there is none, and no other name is bound. So
where no cell has the name of a variable, the variables are what they were. -/
structure Moment.LeavesCells (m m' : Moment σ) : Prop where
  shape : m.session.vars.SameShape m'.session.vars
  cells : ∃ since, m'.world.history = since ++ m.world.history ∧
    (∀ name, m'.session.vars.get? name =
      if m.session.vars.flat || m.session.vars.contains name then
        ((cellsOf since).lookup name).or (m.session.vars.get? name)
      else none) ∧
    (m.session.vars.flat = false →
      (∀ cell ∈ cellsOf since, m.session.vars.contains cell.1 = false) →
        m'.session.vars = m.session.vars)

theorem Moment.Overwrites.leavesCells (h : m.Overwrites m') : m.LeavesCells m' := by
  obtain ⟨since, hhistory, hvars⟩ := h
  refine ⟨?_, since, hhistory, fun name => ?_, fun hflat hfresh => ?_⟩
  · rw [hvars]
    exact ⟨Vars.flat_overwriteAll .., Vars.depth_overwriteAll ..⟩
  · rw [hvars]
    exact Vars.get?_overwriteAll ..
  · rw [hvars]
    exact Vars.overwriteAll_eq_self hflat hfresh

/-- An event within leaves the variables as they are, or reads a table. -/
def Stay.Spares (stay : Stay σ) : Prop :=
  stay.event.kind ≠ .command .csv → stay.carried.session.vars = stay.before.session.vars

theorem Tour.carried_vars {leg : Leg} {stays : List (Stay σ)} {r : Except Error Unit}
    (h : Tour setup o leg m stays r m') {stay : Stay σ} (hmem : stay ∈ Stay.allOf stays)
    (hspares : stay.Spares) : stay.carried.session.vars = stay.before.session.vars := by
  by_cases hkind : stay.event.kind = .command .csv
  · obtain ⟨r, m₁, hsingle⟩ := h.single_of_mem hmem
    obtain ⟨⟨event, parent, result⟩, before, carried, within, departure⟩ := stay
    cases hsingle with
    | finished hopen _ _ _ => exact vars_openEvent_csv hkind hopen
    | lost hopen _ _ => exact vars_openEvent_csv hkind hopen
    | unwound hopen _ => exact vars_openEvent_csv hkind hopen
  · exact hspares hkind

/-- **Rows leave cells behind.** Take any table event on a tour, with whatever variables it starts,
such that no event within it changes the variables itself. Once it has ended, or the run has within
it, rows have left their cells behind: those of its own rows, and those of tables within. -/
theorem cells_of_visit (setup : Setup) (o : Outside σ) (depth : Nat) (events : List Event)
    (parent : Option Element) (s : Session) (w : World σ) :
    Stretch.Leads o (Journey.visit setup depth events parent).run s w fun r s' w' =>
      ∃ stays, Tour setup o (.siblings events parent) ⟨s, w⟩ stays r ⟨s', w'⟩ ∧
        ∀ stay ∈ Stay.allOf stays, stay.event.kind = .command .csv →
          (∀ inner ∈ Stay.allOf stay.within, inner.Spares) →
            ∃ r m', Tour setup o (.single stay.event stay.visit.parent) stay.before [stay] r m' ∧
              (∀ departure, stay.departure = some departure → m' = departure.after) ∧
              stay.before.LeavesCells m' := by
  refine (Journey.tours_visit depth events parent s w).mono ?_
  rintro r s' w' ⟨stays, htour⟩
  refine ⟨stays, htour, fun stay hmem hkind hwithin => ?_⟩
  -- the part of the tour that is this one stay
  obtain ⟨r, m', hsingle⟩ := htour.single_of_mem hmem
  refine ⟨r, m', hsingle, ?_, ?_⟩
  · obtain ⟨⟨event, parent, result⟩, before, carried, within, departure⟩ := stay
    rintro d rfl
    cases hsingle
    rfl
  · have hspares : ∀ inner ∈ Stay.allOf [stay], inner.Spares := by
      rw [Stay.forall_allOf_singleton]
      exact ⟨fun hne => absurd hkind hne, hwithin⟩
    have hvars (inner : Stay σ) (hinner : inner ∈ Stay.allOf [stay]) :=
      hsingle.carried_vars hinner (hspares inner hinner)
    exact (hsingle.spans (spans_overwrites setup o) hvars).leavesCells

/-! ## Tours through events of some class -/

/-- All events of a part of a traversal are of some class, and no script is included. -/
def Leg.All (P : Event → Prop) : Leg → Prop
  | .single event _ => P event
  | .siblings events _ => ∀ event ∈ events, P event
  | .rows children _ _ => ∀ event ∈ children, P event
  | .within event _ result => P event ∧
    ∀ opened included, result = .ok opened → opened.inner ≠ .events included

/-- If a class of events includes no scripts and is closed under children, a tour that starts in it
stays in it. -/
theorem Tour.all_events {P : Event → Prop}
    (hchildren : ∀ event, P event → ∀ child ∈ event.children, P child)
    (hscript : ∀ event, P event → event.kind ≠ .command .script) {leg : Leg}
    {stays : List (Stay σ)} {r : Except Error Unit} (h : Tour setup o leg m stays r m')
    (hleg : leg.All P) : ∀ stay ∈ Stay.allOf stays, P stay.event := by
  -- only a script goes on to events that do not stand below it
  have hwithin {event : Event} {parent : Option Element} {result : Except Mishap Opened}
      {m carried : Moment σ} (hevent : P event)
      (hopen : Stretch.Comes o (Passage.openEvent setup event parent).run (m.starting event parent)
        result carried) : (Leg.within event parent result).All P := by
    refine ⟨hevent, fun opened included hresult hinner => ?_⟩
    have hopens := (hopen.of_leads (Stretch.visits_openEvent event parent)).2.2 opened hresult
    cases hopens with
    | script hkind => exact hscript event hevent hkind
    | _ => cases hinner
  have hinner {event : Event} {parent : Option Element} {opened : Opened} (hevent : P event)
      (hnone : ∀ included, opened.inner ≠ .events included) :
      (opened.inner.leg event.children parent).All P := by
    cases heq : opened.inner with
    | nothing => exact fun _ hmem => by cases hmem
    | rows _ => exact hchildren event hevent
    | events included => exact absurd heq (hnone included)
  induction h with
  | none | stopped | noRow | stoppedRow | failed => exact Stay.forall_allOf_nil
  | next _ _ _ ihhere ihlater =>
    rw [Leg.All, List.forall_mem_cons] at hleg
    exact Stay.forall_allOf_append.2 ⟨ihhere hleg.1, ihlater hleg.2⟩
  | ended _ _ ih =>
    rw [Leg.All, List.forall_mem_cons] at hleg
    exact ih hleg.1
  | nextRow _ _ _ _ ihhere ihlater =>
    exact Stay.forall_allOf_append.2 ⟨ihhere hleg, ihlater hleg⟩
  | endedRow _ _ _ ih => exact ih hleg
  | opened _ _ ihinner ihbelow =>
    refine Stay.forall_allOf_append.2
      ⟨ihinner (hinner hleg.1 fun included => hleg.2 _ included rfl),
        ihbelow fun child hchild => ?_⟩
    unfold Event.lastChildren at hchild
    split at hchild
    · exact hchildren _ hleg.1 child hchild
    · cases hchild
  | halted _ _ ih => exact ih (hinner hleg.1 fun included => hleg.2 _ included rfl)
  | finished hopen _ _ _ ih | lost hopen _ _ ih | unwound hopen _ ih =>
    exact Stay.forall_allOf_singleton.2 ⟨hleg, ih (hwithin hleg hopen)⟩

end Histories

/-! ## A row around a table -/

/-- An outside in which every file holds the same text, and which loses the browser at every call.
-/
def Outside.holding (text : String) : Outside Unit
  | .call _, s => .answer s (.error (.sessionLost "gone"))
  | .readFile _, s => .answer s (.ok text)
  | _, s => { start := s, ending := none }

/-- A table event without children. -/
def Event.table : Event :=
  { kind := .command .csv, name := "csv", actions := ⟨[("file", .text "table.csv")]⟩ }

/-- A point within a row of a table around. -/
def Moment.inRow : Moment Unit := Moment.small.entering [("csv.a", "0")]

/-- The value of a row around is not left in place: the table within has a column of that name. -/
theorem cells_left_behind : (Event.table.kind = .command .csv ∧ Event.table.children = []) ∧
    Moment.inRow.session.vars.get? "csv.a" = some "0" ∧
    ∃ s' w', World.run (.holding "a,b\n1,2")
        ((Journey.visit .small 1 [Event.table] none).run Moment.inRow.session) Moment.inRow.world =
          some ((.ok (), s'), w') ∧
      s'.vars.get? "csv.a" = some "1" := by
  have hresult : (World.run (.holding "a,b\n1,2")
      ((Journey.visit .small 1 [Event.table] none).run Moment.inRow.session)
        Moment.inRow.world).map (fun p => (p.1.1, p.1.2.vars.get? "csv.a")) =
      some (.ok (), some "1") := by
    decide +kernel
  obtain ⟨⟨⟨r, s'⟩, w'⟩, hrun, hshown⟩ := Option.map_eq_some_iff.1 hresult
  obtain ⟨rfl, ha⟩ := Prod.mk.inj hshown
  exact ⟨⟨rfl, rfl⟩, by decide +kernel, s', w', hrun, ha⟩

/-- The cell of a column that the row around has too is left behind, and the other one is gone. -/
theorem cells_of_visit_table : Event.table.kind = .command .csv ∧
    ∃ s' w', World.run (.holding "a,b\n1,2")
        ((Journey.visit .small 1 [Event.table] none).run Moment.inRow.session) Moment.inRow.world =
          some ((.ok (), s'), w') ∧
      s'.vars.get? "csv.a" = some "1" ∧ s'.vars.get? "csv.b" = none ∧
      ∃ (stay : Stay Unit) (departure : Departure Unit),
        stay.event = Event.table ∧ stay.before = Moment.inRow ∧
        (∀ inner ∈ Stay.allOf stay.within, inner.Spares) ∧ stay.departure = some departure ∧
        departure.after = ⟨s', w'⟩ ∧ stay.before.LeavesCells departure.after := by
  have hresult : (World.run (.holding "a,b\n1,2")
      ((Journey.visit .small 1 [Event.table] none).run Moment.inRow.session)
        Moment.inRow.world).map
        (fun p => (p.1.1, p.1.2.vars.get? "csv.a", p.1.2.vars.get? "csv.b")) =
      some (.ok (), some "1", none) := by
    decide +kernel
  have hgoes : Moment.inRow.world.isStopped = false := by decide +kernel
  obtain ⟨⟨⟨r, s'⟩, w'⟩, hrun, hshown⟩ := Option.map_eq_some_iff.1 hresult
  simp only [Prod.mk.injEq] at hshown
  obtain ⟨rfl, ha, hb⟩ := hshown
  obtain ⟨stays, htour, hcells⟩ := cells_of_visit .small (.holding "a,b\n1,2") 1 [Event.table] none
    Moment.inRow.session Moment.inRow.world _ _ hrun
  have hevents : ∀ stay ∈ Stay.allOf stays, stay.event = Event.table := by
    refine htour.all_events (P := fun event => event = Event.table) ?_ ?_ ?_
    · rintro _ rfl _ hmem
      cases hmem
    · rintro _ rfl hkind
      cases hkind
    · intro event hmem
      exact List.mem_singleton.1 hmem
  refine ⟨rfl, s', w', hrun, ha, hb, ?_⟩
  cases htour with
  | stopped hstop => exact absurd hstop (Bool.eq_false_iff.1 hgoes)
  | next _ hhere hlater =>
    cases hlater
    rw [List.append_nil] at hevents hcells
    cases hhere with
    | @finished _ _ _ _ _ _ _ _ within _ _ _ _ =>
      rw [Stay.forall_allOf_singleton] at hevents
      have hspares : ∀ inner ∈ Stay.allOf within, inner.Spares := fun inner hmem hne =>
        absurd (congrArg Event.kind (hevents.2 inner hmem)) hne
      obtain ⟨_, m', -, hleft, hleaves⟩ := hcells _ (Stay.mem_allOf_of_mem (.head _)) rfl hspares
      cases hleft _ rfl
      exact ⟨_, _, rfl, rfl, hspares, rfl, rfl, hleaves⟩

end PageScript
