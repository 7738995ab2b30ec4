import PageScript.Proofs.FileLookups
import PageScript.Proofs.MirroredTours
import PageScript.Proofs.RowScopes

/-!
# Tables that are named ahead

A table event may name the file for the next one instead of reading a file itself. This next one then
chooses the file that has been named ahead, and its own only if there is none. A file that is named
ahead holds for one choice: it is used up even where it cannot be read, and it is replaced where
another one is named before it has been chosen.

The next table event is the one that begins next, wherever it is: in the children of the same event,
in another row, in a script that is included, or after all of these. So the law is one of the whole
run, in the order in which its stays begin. What one stay leaves is what the next one finds, because
no other event, nor anything that happens in between, has a say in it.
-/

namespace PageScript

open Stretch

variable {σ : Type} {o : Outside σ} {setup : Setup} {event : Event} {parent : Option Element}
  {s : Session} {w : World σ}

/-- The text of an action with variables put in. -/
def Event.given? (setup : Setup) (s : Session) (event : Event) (name : String) : Option String :=
  (event.actions.text? name).map (substitute setup.hijacks s.vars)

/-- A table event that names no file for the next one chooses a file for itself. -/
def Event.Chooses (event : Event) : Prop :=
  event.kind = .command .csv ∧ event.actions.text? "override" = none

namespace Stay

/-- The file that a table event names for the next one. -/
def namesAhead? (setup : Setup) (stay : Stay σ) : Option String :=
  if stay.event.kind = .command .csv then
    stay.event.given? setup stay.before.session "override"
  else none

/-- The file in the action of a table event. -/
def ownTable? (setup : Setup) (stay : Stay σ) : Option String :=
  stay.event.given? setup stay.before.session "file"

/-- What becomes of a table event, given the file that is named ahead when it begins. -/
inductive TakesTurn (setup : Setup) (o : Outside σ) (ahead : Option String) (stay : Stay σ) : Prop where
  /-- It names a file, which is the one named ahead from now on, and runs no rows. -/
  | names {file : String} : stay.namesAhead? setup = some file → stay.asked setup o = [] →
      stay.visit.result = .ok { inner := .rows [] } → stay.within = [] →
      stay.carried.session.pendingTable = some file → TakesTurn setup o ahead stay
  /-- It reads the file named ahead, or its own, and from now on none is named ahead. -/
  | chooses {file : String} : stay.event.Chooses → ahead.or (stay.ownTable? setup) = some file →
      stay.asked setup o = [.readFile (Act.path setup file)] →
      stay.carried.session.pendingTable = none → TakesTurn setup o ahead stay
  /-- There is no file that it could read. -/
  | missing : stay.event.Chooses → ahead = none → stay.ownTable? setup = none →
      stay.asked setup o = [] →
      stay.visit.result = .error (.missing stay.event "'file' is required") →
      stay.carried.session.pendingTable = none → TakesTurn setup o ahead stay

end Stay

/-- Of the table events of these stays one has named this file ahead, and since then none has named
another one or has chosen. -/
def NamedAhead (setup : Setup) (stays : List (Stay σ)) (file : String) : Prop :=
  ∃ earlier namer since, stays = earlier ++ namer :: since ∧
    namer.namesAhead? setup = some file ∧
    ∀ stay ∈ since, stay.namesAhead? setup = none ∧ ¬ stay.event.Chooses

/-! ## A table event by itself -/

namespace Act

/-- To read a file is to ask for it once, whatever comes of it. -/
theorem asks_readFile (path : String) (hgoes : w.isStopped = false)
    {F : List Action → Except Mishap String → Session → World σ → Prop}
    (hasked : ∀ r w', F [.readFile path] r s w') : Asks o ((readFile path).play setup) s w F := by
  refine asks_play_bind _ _ |>.2 (asks_perform (.readFile path) (fun hstop => ?_) fun r w' => ?_)
  · exact absurd hstop (Bool.eq_false_iff.1 hgoes)
  cases r with
  | error m => exact hasked _ _
  | ok x =>
    cases x with
    | ok text => exact asks_play_pure _ |>.2 (hasked _ _)
    | error e => exact asks_play_fail _ |>.2 (hasked _ _)

end Act

section Opening

variable {file : String}

/-- What a table event asks for and comes to when it is opened is what it does by itself. -/
theorem asks_openTable {Q : List Action → Except Mishap Opened → Session → Prop}
    (hkind : event.kind = .command .csv)
    (h : Asks o ((Act.csv setup event).play setup) s w fun l r s' _ =>
      Q l (r.map fun rows => { inner := .rows rows }) s') :
    Asks o (Passage.openEvent setup event parent).run s w fun l r s' _ => Q l r s' := by
  refine asks_carriedOut ?_
  unfold Passage.carryOut
  rw [hkind]
  exact asks_actOpened h

/-- A table event that names a file for the next one asks for nothing. -/
theorem asks_naming (hkind : event.kind = .command .csv)
    (hfile : event.given? setup s "override" = some file) :
    Asks o (Passage.openEvent setup event parent).run s w fun l r s' _ =>
      l = [] ∧ r = .ok { inner := .rows [] } ∧ s'.pendingTable = some file := by
  refine asks_openTable hkind ?_
  rw [Act.csv, asks_play_bind, asks_action?, ← Event.given?, hfile]
  refine asks_play_bind _ _ |>.2 (asks_say _ |>.2 ?_)
  refine asks_play_bind _ _ |>.2 (asks_edit _ |>.2 ?_)
  exact asks_play_pure _ |>.2 ⟨rfl, rfl, rfl⟩

/-- A table event that chooses reads the file named ahead or else its own. What has been named ahead is
used up by then, so nothing depends on what comes of reading. -/
theorem asks_choosing (hchooses : event.Chooses)
    (hfile : s.pendingTable.or (event.given? setup s "file") = some file)
    (hgoes : w.isStopped = false) :
    Asks o (Passage.openEvent setup event parent).run s w fun l _ s' _ =>
      l = [.readFile (Act.path setup file)] ∧ s'.pendingTable = none := by
  refine asks_openTable hchooses.1 ?_
  rw [Act.csv, asks_play_bind, asks_action?, hchooses.2]
  dsimp only [Option.map_none]
  rw [asks_play_bind, Act.asks_chooseTable, ← Event.given?, hfile]
  -- from here on no file is pending, and what is left leaves the session alone
  refine asks_play_bind _ _ |>.2 (asks_action? "var" |>.2 ?_)
  refine asks_play_bind _ _ |>.2 (Act.asks_readFile _ hgoes fun result w' => ?_)
  cases result with
  | error mishap => exact ⟨rfl, rfl⟩
  | ok text =>
    refine asks_play_bind _ _ |>.2 (asks_say _ |>.2 ?_)
    exact asks_play_pure _ |>.2 ⟨rfl, rfl⟩

/-- Where there is no file at all, the event fails. -/
theorem asks_missing (hchooses : event.Chooses)
    (hfile : s.pendingTable.or (event.given? setup s "file") = none) :
    Asks o (Passage.openEvent setup event parent).run s w fun l r s' _ =>
      l = [] ∧ r = .error (.missing event "'file' is required") ∧ s'.pendingTable = none := by
  refine asks_openTable hchooses.1 ?_
  rw [Act.csv, asks_play_bind, asks_action?, hchooses.2]
  dsimp only [Option.map_none]
  rw [asks_play_bind, Act.asks_chooseTable, ← Event.given?, hfile]
  exact ⟨rfl, rfl, rfl⟩

end Opening

/-! ## The turns of table events on a tour -/

namespace Tour

variable {leg : Leg} {m m' : Moment σ} {stays : List (Stay σ)} {r : Except Error Unit}
  {stay : Stay σ}

/-- Every event of a tour begins while the run has not been stopped. -/
theorem goes_before (h : Tour setup o leg m stays r m')
    (hleg : ∀ event parent, leg = .single event parent → m.world.isStopped = false) :
    ∀ stay ∈ Stay.allOf stays, stay.before.world.isStopped = false := by
  -- what comes before the children are rows or siblings, and they are asked for a stop one by one
  have hinner {opened : Opened} {event : Event} {parent : Option Element} {P : Prop} :
      ∀ e p, opened.inner.leg event.children parent = .single e p → P := by
    intro e p heq
    cases hin : opened.inner <;> rw [hin] at heq <;> cases heq
  induction h with
  | none | stopped | noRow | stoppedRow | failed => exact Stay.forall_allOf_nil
  | next hgoes _ _ ihhere ihlater =>
    exact Stay.forall_allOf_append.2 ⟨ihhere fun _ _ _ => hgoes, ihlater nofun⟩
  | ended hgoes _ ih => exact ih fun _ _ _ => hgoes
  | nextRow _ _ _ _ ihhere ihlater =>
    exact Stay.forall_allOf_append.2 ⟨ihhere nofun, ihlater nofun⟩
  | endedRow _ _ _ ih => exact ih nofun
  | opened _ _ ihinner ihbelow =>
    exact Stay.forall_allOf_append.2 ⟨ihinner hinner, ihbelow nofun⟩
  | halted _ _ ih => exact ih hinner
  | finished _ _ _ _ ih | lost _ _ _ ih | unwound _ _ ih =>
    exact Stay.forall_allOf_singleton.2 ⟨hleg _ _ rfl, ih nofun⟩

/-- Nothing is within a table event that binds no rows. -/
theorem within_noRows (h : Tour setup o leg m stays r m') (hmem : stay ∈ Stay.allOf stays)
    (hkind : stay.event.kind = .command .csv)
    (hresult : stay.visit.result = .ok { inner := .rows [] }) : stay.within = [] := by
  obtain ⟨_, _, hsingle⟩ := h.single_of_mem hmem
  obtain ⟨_, _, _, _, _, _, -, hwithin, -, hstay⟩ := hsingle.single_inv
  obtain ⟨⟨event, parent, result⟩, before, carried, within, departure⟩ := stay
  cases hstay
  dsimp only [Stay.event] at hkind hresult hwithin
  rw [hresult] at hwithin
  cases hwithin with
  | opened hinner hbelow =>
    rw [lastChildren_table hkind] at hbelow
    cases hinner
    cases hbelow
    rfl
  | halted hinner _ => cases hinner

/-- Every table event of a tour takes its turn, given what is pending when it begins. -/
theorem takesTurn (h : Tour setup o leg m stays r m') (hmem : stay ∈ Stay.allOf stays)
    (hgoes : stay.before.world.isStopped = false) (hkind : stay.event.kind = .command .csv) :
    stay.TakesTurn setup o stay.before.session.pendingTable := by
  have hopen := h.opens hmem
  -- nothing in a table event takes time before it reads, so no stop comes in between
  have hstarts : (stay.before.starting stay.event stay.visit.parent).world.isStopped = false := by
    simpa [Moment.starting] using hgoes
  cases hnames : stay.event.actions.text? "override" with
  | some raw =>
    have hfile : stay.event.given? setup stay.before.session "override" = some _ :=
      congrArg (Option.map _) hnames
    obtain ⟨hasked, hresult, hleft⟩ := asks_naming hkind hfile _ _ hopen
    exact .names ((if_pos hkind).trans hfile) hasked hresult
      (h.within_noRows hmem hkind hresult) hleft
  | none =>
    have hchooses : stay.event.Chooses := ⟨hkind, hnames⟩
    cases hfile : stay.before.session.pendingTable.or (stay.ownTable? setup) with
    | some file =>
      obtain ⟨hasked, hleft⟩ := asks_choosing hchooses hfile hstarts _ _ hopen
      exact .chooses hchooses hfile hasked hleft
    | none =>
      obtain ⟨hasked, hresult, hleft⟩ := asks_missing hchooses hfile _ _ hopen
      obtain ⟨hahead, hown⟩ := Option.or_eq_none_iff.1 hfile
      exact .missing hchooses hahead hown hasked hresult hleft

end Tour

/-! ## What is passed on -/

/-- A table event that names no file ahead is one that chooses. -/
theorem Stay.chooses_iff {stay : Stay σ} (hkind : stay.event.kind = .command .csv) :
    stay.event.Chooses ↔ stay.namesAhead? setup = none := by
  rw [Stay.namesAhead?, if_pos hkind, Event.given?, Option.map_eq_none_iff]
  exact and_iff_right hkind

/-- The first of these stays finds named ahead what is given, each of the others what the one before it
has left, and this is what the last one has left. -/
inductive Stay.HandOn : Option String → List (Stay σ) → Option String → Prop where
  | nil (ahead : Option String) : HandOn ahead [] ahead
  | cons {stay : Stay σ} {stays : List (Stay σ)} {ahead ahead' : Option String} :
      stay.before.session.pendingTable = ahead →
      HandOn stay.carried.session.pendingTable stays ahead' → HandOn ahead (stay :: stays) ahead'

namespace Stay.HandOn

variable {stay : Stay σ} {stays later : List (Stay σ)} {ahead ahead' ahead'' : Option String}

theorem append (h : HandOn ahead stays ahead') (h' : HandOn ahead' later ahead'') :
    HandOn ahead (stays ++ later) ahead'' := by
  induction h with
  | nil => exact h'
  | cons hbefore _ ih => exact .cons hbefore (ih h')

theorem split (h : HandOn ahead (stays ++ stay :: later) ahead') :
    HandOn ahead stays stay.before.session.pendingTable ∧
      HandOn stay.carried.session.pendingTable later ahead' := by
  induction stays generalizing ahead with
  | nil =>
    cases h with
    | cons hbefore hlater => exact ⟨hbefore ▸ .nil _, hlater⟩
  | cons first stays ih =>
    cases h with
    | cons hbefore hrest => exact ⟨.cons hbefore (ih hrest).1, (ih hrest).2⟩

end Stay.HandOn

/-- A stay more has named the file ahead, or it has nothing to do with it. -/
theorem namedAhead_concat {stays : List (Stay σ)} {stay : Stay σ} {file : String} :
    NamedAhead setup (stays ++ [stay]) file ↔ stay.namesAhead? setup = some file ∨
      (stay.namesAhead? setup = none ∧ ¬ stay.event.Chooses) ∧ NamedAhead setup stays file := by
  constructor
  · rintro ⟨earlier, namer, since, hstays, hnames, hsince⟩
    rcases List.eq_nil_or_concat' since with rfl | ⟨since, last, rfl⟩
    · obtain ⟨-, hlast⟩ := List.append_inj' hstays rfl
      rw [(List.cons.inj hlast).1]
      exact .inl hnames
    · rw [← List.cons_append, ← List.append_assoc] at hstays
      obtain ⟨hearlier, hlast⟩ := List.append_inj' hstays rfl
      obtain ⟨hsince, hstay⟩ := List.forall_mem_append.1 hsince
      rw [(List.cons.inj hlast).1]
      exact .inr ⟨hstay _ (.head _), earlier, namer, since, hearlier, hnames, hsince⟩
  · rintro (hnames | ⟨hstay, earlier, namer, since, rfl, hnames, hsince⟩)
    · exact ⟨stays, stay, [], rfl, hnames, nofun⟩
    · exact ⟨earlier, namer, since ++ [stay], by simp, hnames,
        List.forall_mem_append.2 ⟨hsince, List.forall_mem_singleton.2 hstay⟩⟩

/-- What is handed on from nothing is what has been named ahead, if every stay passes on what it finds
unless it is a table event. -/
theorem Stay.HandOn.eq_some_iff {stays : List (Stay σ)} {ahead : Option String}
    (h : Stay.HandOn none stays ahead)
    (hcarried : ∀ stay ∈ stays, stay.carried.session.pendingTable =
      if stay.event.kind = .command .csv then stay.namesAhead? setup
      else stay.before.session.pendingTable) (file : String) :
    ahead = some file ↔ NamedAhead setup stays file := by
  induction stays using List.reverseRecOn generalizing ahead with
  | nil =>
    cases h
    refine ⟨nofun, ?_⟩
    rintro ⟨earlier, namer, since, hnil, -⟩
    simp at hnil
  | append_singleton stays stay ih =>
    obtain ⟨hstays, hstay⟩ := List.forall_mem_append.1 hcarried
    obtain ⟨hbefore, hafter⟩ := h.split
    cases hafter
    rw [hstay stay (.head _), namedAhead_concat]
    by_cases hkind : stay.event.kind = .command .csv
    · -- it names a file or chooses one, and in both cases what was named before is over
      rw [if_pos hkind]
      cases hnames : stay.namesAhead? setup with
      | some other => simp
      | none =>
        have hchooses : stay.event.Chooses := (Stay.chooses_iff hkind).2 hnames
        simp [hchooses]
    · have hnames : stay.namesAhead? setup = none := if_neg hkind
      have hchooses : ¬ stay.event.Chooses := fun h => hkind h.1
      rw [if_neg hkind, hnames]
      simpa [hchooses] using ih hbefore hstays

namespace Tour

variable {leg : Leg} {m m' : Moment σ} {stays : List (Stay σ)} {r : Except Error Unit}
  {stay : Stay σ}

/-- An event that is not a table event leaves it as it is which file is named ahead. -/
theorem pendingTable_other (h : Tour setup o leg m stays r m') (hmem : stay ∈ Stay.allOf stays)
    (hkind : stay.event.kind ≠ .command .csv) :
    stay.carried.session.pendingTable = stay.before.session.pendingTable := by
  have hedited := (h.opens hmem).of_leads (edited_openEvent stay.event stay.visit.parent)
  refine hedited.keeps (P := fun s => s.pendingTable = stay.before.session.pendingTable) ?_ rfl
  intro s e hmay hs
  cases e with
  | setPendingTable file => exact absurd (hmay.chooses file rfl) hkind
  | _ => exact hs

/-- What an event leaves named ahead. -/
theorem pendingTable_carried (h : Tour setup o leg m stays r m') (hmem : stay ∈ Stay.allOf stays)
    (hgoes : stay.before.world.isStopped = false) : stay.carried.session.pendingTable =
      if stay.event.kind = .command .csv then stay.namesAhead? setup
      else stay.before.session.pendingTable := by
  split
  · rename_i hkind
    cases h.takesTurn hmem hgoes hkind with
    | names hfile _ _ _ hleft => rw [hleft, hfile]
    | chooses hchooses _ _ hleft | missing hchooses _ _ _ _ hleft =>
      rw [hleft, (Stay.chooses_iff hkind).1 hchooses]
  · rename_i hkind
    exact h.pendingTable_other hmem hkind

theorem pendingTable_settle {result : Except Mishap Opened} {done left : Moment σ}
    (h : Comes o (Journey.settle setup event result).run done r left) :
    left.session.pendingTable = done.session.pendingTable := by
  refine (h.of_leads (edited_settle event result)).keeps
    (P := fun s => s.pendingTable = done.session.pendingTable) ?_ rfl
  rintro s _ ⟨handle, rfl⟩ hs
  exact hs

/-- Nothing in between has a say in which file is named ahead. -/
theorem spans_handOn (setup : Setup) (o : Outside σ) : Tour.Spans setup o fun m stays _ m' =>
    Stay.HandOn m.session.pendingTable (Stay.allOf stays) m'.session.pendingTable where
  refl m := .nil _
  trans hhere hlater _ _ := by
    rw [Stay.allOf_append]
    exact hhere.append hlater
  skips _ := .nil _
  row _ _ h := h
  halts h hreport := by
    rw [(hreport.of_leads (still_report _ _)).1]
    exact h
  finishes {m event parent result carried within done left after} _ _ h hsettle hfinish := by
    rw [Stay.allOf_singleton, (hfinish.of_leads (Journey.adds_finish event _)).1,
      pendingTable_settle hsettle]
    exact .cons rfl h
  loses _ _ h hsettle := by
    rw [Stay.allOf_singleton, pendingTable_settle hsettle]
    exact .cons rfl h
  unwinds _ _ h := by
    rw [Stay.allOf_singleton]
    exact .cons rfl h

end Tour

/-! ## Runs -/

section Runs

variable {calendar : Calendar} {stopAt : Option Duration} {events : List Event} {outside : σ}
  {ended : Ended σ}

/-- A run has come to an end, and each of its table events has taken its turn: what was named ahead when
it began is what has been named last in the stays before, unless a table event has chosen since. -/
structure InTurn (course : Course setup o calendar stopAt events outside ended)
    (stays : List (Stay σ)) : Prop extends Toured course stays where
  turns : ∀ earlier stay later, Stay.allOf stays = earlier ++ stay :: later →
    stay.event.kind = .command .csv → ∃ ahead,
      (∀ file, ahead = some file ↔ NamedAhead setup earlier file) ∧ stay.TakesTurn setup o ahead

/-- When the events of a run begin, no file is named ahead. -/
theorem pendingTable_begun {m begun : Moment σ}
    (h : Comes o (Journey.noteWindow >>= fun _ => fire setup { phase := .beforeTest }) m () begun) :
    begun.session.pendingTable = m.session.pendingTable := by
  refine h.of_leads (leads_begin (Q := fun s _ => s.pendingTable = m.session.pendingTable) ?_)
  intro x _ _ _ _ _
  rcases x with _ | _ | _ <;> rfl

theorem Toured.inTurn {course : Course setup o calendar stopAt events outside ended}
    {stays : List (Stay σ)} (h : Toured course stays) : InTurn course stays := by
  obtain ⟨begun, hbegun, htour⟩ := h.tour
  refine ⟨h, fun earlier stay later hstays hkind => ?_⟩
  have hmem {inner : Stay σ} (hinner : inner ∈ earlier ++ stay :: later) :
      inner ∈ Stay.allOf stays := by
    rw [hstays]
    exact hinner
  have hgoes := htour.goes_before nofun
  have hhandOn := htour.spans (Tour.spans_handOn setup o)
  dsimp only at hhandOn
  rw [hstays, pendingTable_begun hbegun] at hhandOn
  refine ⟨stay.before.session.pendingTable, ?_, ?_⟩
  · -- what the stay finds is what those before it have passed on
    refine hhandOn.split.1.eq_some_iff fun inner hinner => ?_
    have hinner := hmem (List.mem_append_left _ hinner)
    exact htour.pendingTable_carried hinner (hgoes inner hinner)
  · have hstay := hmem (List.mem_append_right _ (.head later))
    exact htour.takesTurn hstay (hgoes stay hstay) hkind

/-- **A file that is named ahead is used for one choice.** Take any run that comes to an end, be it
stopped or lost or neither, and any table event of it, wherever it lies. If it names a file ahead, then
it reads nothing and has no rows. Otherwise it asks for the file that has been named ahead last since a
table event before it has chosen, or for its own if there is none, and this choice uses up what was
named ahead, whatever comes of it. -/
theorem inTurn_of_run (hrun : setup.run o calendar stopAt events outside = some ended) :
    ∃ (course : Course setup o calendar stopAt events outside ended) (stays : List (Stay σ)),
      InTurn course stays := by
  obtain ⟨course⟩ := exists_course hrun
  obtain ⟨stays, htoured⟩ := course.toured
  exact ⟨course, stays, htoured.inTurn⟩

end Runs

/-! ## A run with files that are named ahead -/

/-- An outside with one file, which is a table with one row. -/
def Outside.oneTable : Outside Unit
  | .readFile path, s =>
    .answer s (if path = "rows.csv" then .ok "a\n1" else .error .notFound)
  | a, s => oneWindow a s

/-- A table event that names a file ahead. -/
def Event.naming (file : String) : Event :=
  { kind := .command .csv, name := "csv", actions := ⟨[("override", .text file)]⟩ }

/-- A table event with a file of its own, which is the one that there is. -/
def Event.reading (children : List Event) : Event :=
  { kind := .command .csv, name := "csv", actions := ⟨[("file", .text "rows.csv")]⟩, children }

/-- Of two files that are named ahead the second one is chosen and cannot be read. Then a table event
has its own file again, and in its row another one is named ahead. -/
def namingEvents : List Event :=
  [.naming "one.csv", .naming "two.csv", .reading [], .reading [.naming "next.csv"], .reading []]

/-- The text of the error that an event has come to. -/
def faultText : Except Mishap Opened → Option String
  | .error (.fault e) => some e.message
  | _ => none

theorem inTurn_namingEvents : ∃ ended,
    Setup.small.run .oneTable ⟨2020, 1, 1, 0, 0, 0⟩ none namingEvents () = some ended ∧
    (results ended.world.history).map (fun p => faultText p.2) =
      [none, none, some "Failed to read file 'two.csv': No such file or directory (os error 2)",
        none, none, some "Failed to read file 'next.csv': No such file or directory (os error 2)"] ∧
    ∃ (course : Course .small .oneTable ⟨2020, 1, 1, 0, 0, 0⟩ none namingEvents () ended)
      (stays : List (Stay Unit)), InTurn course stays := by
  have hshown : (Setup.small.run .oneTable ⟨2020, 1, 1, 0, 0, 0⟩ none namingEvents ()).map
      (fun ended => (results ended.world.history).map fun p => faultText p.2) =
      some [none, none,
        some "Failed to read file 'two.csv': No such file or directory (os error 2)", none, none,
        some "Failed to read file 'next.csv': No such file or directory (os error 2)"] := by
    decide +kernel
  obtain ⟨ended, hrun, hfaults⟩ := Option.map_eq_some_iff.1 hshown
  exact ⟨ended, hrun, hfaults, inTurn_of_run hrun⟩

end PageScript
