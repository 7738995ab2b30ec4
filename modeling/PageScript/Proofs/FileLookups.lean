import PageScript.Proofs.Verdicts
import PageScript.Proofs.OutsideRequests
import PageScript.Proofs.RunTours

/-!
# Where files are looked for

Five kinds of events name a file: they read a table or a script for the page, include a script, or
save the page. The one directory that all these names start from is that of the script that the run
was started with. It is a setting of the run, so neither the script that an event is written in nor
the scripts that lead to it have a say in where its file is.

An event asks for no file but the one it names, and it has asked for it once where it has succeeded.
-/

namespace PageScript

open Stretch

variable {σ α β : Type} {o : Outside σ} {setup : Setup} {event : Event} {s : Session} {w : World σ}

/-- The path of the file or script that an action asks for. -/
def Action.path? : Action → Option String
  | .readFile path | .writeFile path _ | .loadScript path => some path
  | .call _ | .runProcess _ => none

/-- Whether events of a kind name a file. -/
def Kind.namesFile : Kind → Bool
  | .command .csv | .command .javascript | .command .script | .command .savehtml
  | .command .screenshot => true
  | _ => false

/-- All that was asked for are the paths to the named file, if there is one, or nothing was asked for
and there was no success. -/
def Resolves (setup : Setup) (named : Option String) (asked : List Action) (ok : Bool) : Prop :=
  asked.filterMap Action.path? = (named.map (Path.resolve setup.baseDir)).toList ∨
    asked.filterMap Action.path? = [] ∧ ok = false

/-! ## What acts ask for -/

section Acts

variable {F : List Action → Except Mishap α → Session → World σ → Prop}

theorem asks_say (r : Remark) {F : List Action → Except Mishap Unit → Session → World σ → Prop} :
    Asks o (Act.play setup (Act.say r)) s w F ↔ F [] (.ok ()) s (w.say r) :=
  (asks_play_move (.say r)).trans ((asks_ofWorker _).trans (World.asks_say r))

theorem asks_session {F : List Action → Except Mishap Session → Session → World σ → Prop} :
    Asks o (Act.play setup Act.session) s w F ↔ F [] (.ok s) s w :=
  (asks_play_move .session).trans asks_get

theorem asks_edit (e : Edit) {F : List Action → Except Mishap Unit → Session → World σ → Prop} :
    Asks o (Act.play setup (Act.edit e)) s w F ↔ F [] (.ok ()) (s.edit e) w :=
  (asks_play_move (.edit e)).trans (asks_modify _)

theorem asks_fill (raw : String)
    {F : List Action → Except Mishap String → Session → World σ → Prop} :
    Asks o (Act.play setup (Act.fill setup raw)) s w F ↔
      F [] (.ok (substitute setup.hijacks s.vars raw)) s w := by
  rw [Act.fill, asks_play_bind, asks_session]
  dsimp only
  rw [asks_play_pure]
  rfl

theorem asks_action? (name : String)
    {F : List Action → Except Mishap (Option String) → Session → World σ → Prop} :
    Asks o (Act.play setup (Act.action? setup event name)) s w F ↔
      F [] (.ok ((event.actions.text? name).map (substitute setup.hijacks s.vars))) s w := by
  rw [Act.action?]
  cases event.actions.text? name with
  | none => exact asks_play_pure _
  | some raw =>
    rw [Act.fill?, asks_play_bind, asks_fill]
    dsimp only
    rw [asks_play_pure]
    rfl

theorem asks_require (name : String)
    {F : List Action → Except Mishap String → Session → World σ → Prop} :
    Asks o (Act.play setup (Act.require setup event name)) s w F ↔
      match (event.actions.text? name).map (substitute setup.hijacks s.vars) with
      | some text => F [] (.ok text) s w
      | none => F [] (.error (.missing event ("'" ++ name ++ "' is required"))) s w := by
  rw [Act.require, asks_play_bind, asks_action?]
  dsimp only
  cases (event.actions.text? name).map (substitute setup.hijacks s.vars) with
  | some text => exact asks_play_pure _
  | none => exact asks_play_fail _

/-- An action is asked for, unless the run has been stopped; it may come to anything. -/
theorem asks_perform (a : Action)
    {F : List Action → Except Mishap a.Answer → Session → World σ → Prop}
    (hleft : w.isStopped = true → ∀ m w', F [] (.error m) s w') (hasked : ∀ r w', F [a] r s w') :
    Asks o (Act.play setup (Act.perform a)) s w F := by
  rw [Act.perform, Act.step, asks_play_bind, asks_play_move]
  refine asks_ofWorker _ |>.2 (World.asks_guarded (.untilStop none) a (fun hstop => ?_) ?_)
  · exact asks_play_fail _ |>.2 (hleft hstop _ _)
  · generalize (w.step o (.untilStop none) (.act a)) = answer
    obtain ⟨r, w'⟩ := answer
    cases r with
    | ok x => exact asks_play_pure _ |>.2 (hasked _ _)
    | error _ => exact asks_play_fail _ |>.2 (hasked _ _)

end Acts

/-! ## Acts that ask for one file or none -/

namespace Act

/-- An act that asks for no file. -/
def Fileless (setup : Setup) (o : Outside σ) (a : Act α) : Prop :=
  ∀ s w, Asks o (a.play setup) s w fun l _ _ _ => l.filterMap Action.path? = []

/-- An act that asks for the named file, if there is one, whatever the session is by then. -/
def Seeks (setup : Setup) (o : Outside σ) (named : Option String) (a : Act α) : Prop :=
  ∀ s w, Asks o (a.play setup) s w fun l r _ _ => Resolves setup named l r.toBool

theorem fileless_pure (a : α) : (pure a : Act α).Fileless setup o :=
  fun _ _ => asks_play_pure a |>.2 rfl

theorem fileless_fail (m : Mishap) : (fail m : Act α).Fileless setup o :=
  fun _ _ => asks_play_fail m |>.2 rfl

theorem fileless_log (message : String) : (log message).Fileless setup o :=
  fun _ _ => asks_say _ |>.2 rfl

theorem fileless_edit (e : Edit) : (edit e).Fileless setup o :=
  fun _ _ => asks_edit e |>.2 rfl

theorem fileless_fill (raw : String) : (fill setup raw).Fileless setup o :=
  fun _ _ => asks_fill raw |>.2 rfl

theorem fileless_action? (name : String) : (action? setup event name).Fileless setup o :=
  fun _ _ => asks_action? name |>.2 rfl

theorem Fileless.bind {a : Act β} {f : β → Act α} (h : a.Fileless setup o)
    (hf : ∀ b, (f b).Fileless setup o) : (a >>= f).Fileless setup o := by
  intro s w
  refine asks_play_bind a f |>.2 ((h s w).mono fun l r s' w' hl => ?_)
  cases r with
  | error m => exact hl
  | ok b =>
    refine (hf b s' w').mono fun l' _ _ _ hl' => ?_
    rw [List.filterMap_append, hl, hl', List.append_nil]

theorem fileless_call (c : Call) : (call c).Fileless setup o := by
  intro s w
  refine asks_play_bind _ _ |>.2 (asks_perform (.call c) (fun _ _ _ => rfl) fun r _ => ?_)
  cases r with
  | error m => rfl
  | ok x =>
    cases x with
    | ok answer => exact asks_play_pure answer |>.2 rfl
    | error e => exact asks_play_fail _ |>.2 rfl

theorem Fileless.seeks {a : Act α} (h : a.Fileless setup o) : a.Seeks setup o none :=
  fun s w => (h s w).mono fun _ _ _ _ hl => .inl hl

theorem seeks_fail (named : Option String) (m : Mishap) : (fail m : Act α).Seeks setup o named :=
  fun _ _ => asks_play_fail m |>.2 (.inr ⟨rfl, rfl⟩)

/-- What comes before the named file asks for none. -/
theorem Fileless.bind_seeks {named : Option String} {a : Act β} {f : β → Act α}
    (h : a.Fileless setup o) (hf : ∀ b, (f b).Seeks setup o named) :
    (a >>= f).Seeks setup o named := by
  intro s w
  refine asks_play_bind a f |>.2 ((h s w).mono fun l r s' w' hl => ?_)
  cases r with
  | error m => exact .inr ⟨hl, rfl⟩
  | ok b =>
    refine (hf b s' w').mono fun l' r' _ _ hl' => ?_
    rw [Resolves, List.filterMap_append, hl, List.nil_append]
    exact hl'

/-- What comes after the named file asks for none. -/
theorem Seeks.bind {named : Option String} {a : Act β} {f : β → Act α}
    (h : a.Seeks setup o named) (hf : ∀ b, (f b).Fileless setup o) :
    (a >>= f).Seeks setup o named := by
  intro s w
  refine asks_play_bind a f |>.2 ((h s w).mono fun l r s' w' hl => ?_)
  cases r with
  | error m => exact hl
  | ok b =>
    refine (hf b s' w').mono fun l' r' _ _ hl' => .inl ?_
    rw [List.filterMap_append, hl', List.append_nil]
    exact hl.resolve_right fun h => by cases h.2

/-- An action on the named file. -/
theorem seeks_perform {file : String} {a : Action} (h : a.path? = some (path setup file)) :
    (perform a).Seeks setup o (some file) := by
  refine fun s w => asks_perform a (fun _ _ _ => .inr ⟨rfl, rfl⟩) fun _ _ => .inl ?_
  rw [List.filterMap_cons_some h]
  rfl

theorem seeks_readFile (file : String) :
    (readFile (path setup file)).Seeks setup o (some file) := by
  refine (seeks_perform rfl).bind fun r => ?_
  cases r with
  | ok text => exact fileless_pure text
  | error e => exact fileless_fail _

theorem seeks_writeFile (file : String) (content : ByteArray) :
    (writeFile (path setup file) content).Seeks setup o (some file) := by
  refine (seeks_perform rfl).bind fun r => ?_
  cases r with
  | ok _ => exact fileless_pure ()
  | error e => exact fileless_fail _

/-- An act that begins with the file it must have asks for this file. -/
theorem asks_require_file {f : String → Act α} {named : Option String}
    (hnamed : named = (event.actions.text? "file").map (substitute setup.hijacks s.vars))
    (hf : ∀ file, (f file).Seeks setup o (some file)) :
    Asks o (Act.play setup (require setup event "file" >>= f)) s w fun l r _ _ =>
      Resolves setup named l r.toBool := by
  refine asks_play_bind _ _ |>.2 (asks_require "file" |>.2 ?_)
  rw [← hnamed]
  cases named with
  | none => exact .inl rfl
  | some file => exact hf file s w

/-! ## The kinds of events that name a file -/

/-- The table is the pending one, or the event's own, and in any case none is pending any more. -/
theorem asks_chooseTable {F : List Action → Except Mishap String → Session → World σ → Prop} :
    Asks o (Act.play setup (chooseTable setup event)) s w F ↔
      match s.pendingTable.or
        ((event.actions.text? "file").map (substitute setup.hijacks s.vars)) with
      | some file => F [] (.ok file) { s with pendingTable := none } w
      | none => F [] (.error (.missing event "'file' is required")) { s with pendingTable := none }
          w := by
  rw [chooseTable, asks_play_bind, asks_session]
  dsimp only
  cases hpending : s.pendingTable with
  | none =>
    have hs : { s with pendingTable := none } = s := by rw [← hpending]
    rw [Option.none_or, hs]
    exact asks_require "file"
  | some file =>
    rw [Option.some_or, asks_play_bind, asks_edit]
    exact asks_play_pure file

theorem asks_csv (hkind : event.kind = .command .csv) :
    Asks o ((csv setup event).play setup) s w fun l r _ _ =>
      Resolves setup (event.file? setup s) l r.toBool := by
  have hnamed : event.file? setup s =
      if (event.actions.text? "override").isSome then none
      else s.pendingTable.or ((event.actions.text? "file").map (substitute setup.hijacks s.vars)) := by
    rw [Event.file?, if_pos hkind]
  rw [csv, asks_play_bind, asks_action?]
  dsimp only
  cases hoverride : event.actions.text? "override" with
  | some raw =>
    rw [hoverride, Option.isSome_some, if_pos rfl] at hnamed
    rw [hnamed]
    exact ((fileless_log _).bind fun _ => (fileless_edit _).bind fun _ =>
      fileless_pure []).seeks s w
  | none =>
    rw [hoverride, Option.isSome_none, if_neg Bool.false_ne_true] at hnamed
    refine asks_play_bind _ _ |>.2 (asks_chooseTable.2 ?_)
    rw [← hnamed]
    cases event.file? setup s with
    | none => exact .inl rfl
    | some file =>
      refine ((fileless_action? "var").bind_seeks fun name => ?_) _ w
      exact (seeks_readFile file).bind fun text => (fileless_log _).bind fun _ => fileless_pure _

theorem file?_of_kind_ne {event : Event} (hkind : event.kind ≠ .command .csv) :
    event.file? setup s = (event.actions.text? "file").map (substitute setup.hijacks s.vars) :=
  if_neg hkind

theorem asks_javascript (hkind : event.kind = .command .javascript) :
    Asks o ((javascript setup event).play setup) s w fun l r _ _ =>
      Resolves setup (event.file? setup s) l r.toBool := by
  have hnamed : event.file? setup s =
      (event.actions.text? "file").map (substitute setup.hijacks s.vars) :=
    file?_of_kind_ne (by rw [hkind]; decide)
  have hrest (script : String) : Fileless (α := Unit) setup o (do
      log "Executing javascript."
      let result : String ← call (.executeScript script)
      log ("Javascript result: '" ++ result ++ "'.")) :=
    (fileless_log _).bind fun _ => (fileless_call _).bind fun _ => fileless_log _
  rw [javascript, pageScript, bind_assoc, asks_play_bind, asks_action?]
  dsimp only
  rw [← hnamed]
  generalize event.file? setup s = named
  refine Seeks.bind (Fileless.bind_seeks (fileless_action? "content") fun content => ?_) hrest s w
  cases named with
  | some file => exact (seeks_readFile file).bind fun text => fileless_fill text
  | none =>
    cases content with
    | some content => exact (fileless_pure content).seeks
    | none => exact (fileless_fail _).seeks

theorem asks_saveHtml (hkind : event.kind = .command .savehtml) :
    Asks o ((saveHtml setup event).play setup) s w fun l r _ _ =>
      Resolves setup (event.file? setup s) l r.toBool :=
  asks_require_file (file?_of_kind_ne (by rw [hkind]; decide)) fun file =>
    (fileless_call _).bind_seeks fun _ => (seeks_writeFile file _).bind fun _ => fileless_log _

theorem asks_screenshot (hkind : event.kind = .command .screenshot) :
    Asks o ((screenshot setup event).play setup) s w fun l r _ _ =>
      Resolves setup (event.file? setup s) l r.toBool :=
  asks_require_file (file?_of_kind_ne (by rw [hkind]; decide)) fun file =>
    (fileless_call _).bind_seeks fun _ => (seeks_writeFile file _).bind fun _ => fileless_log _

theorem asks_script (hkind : event.kind = .command .script) :
    Asks o ((script setup event).play setup) s w fun l r _ _ =>
      Resolves setup (event.file? setup s) l r.toBool := by
  refine asks_require_file (file?_of_kind_ne (by rw [hkind]; decide)) fun file => ?_
  split
  · exact seeks_fail _ _
  · refine (seeks_perform rfl).bind fun r => ?_
    cases r with
    | ok events => exact (fileless_log _).bind fun _ => fileless_pure events
    | error e => exact fileless_fail _

end Act

theorem Kind.namesFile_iff {kind : Kind} : kind.namesFile = true ↔
    kind = .command .csv ∨ kind = .command .javascript ∨ kind = .command .script ∨
      kind = .command .savehtml ∨ kind = .command .screenshot := by
  unfold Kind.namesFile
  split <;> simp_all

section Opening

variable {Q : List Action → Except Mishap Opened → Session → Prop} {parent : Option Element}

/-- What an act comes to is what the event has left, or its mishap. -/
theorem asks_actOpened {a : Act α} {f : α → Opened}
    (h : Asks o (a.play setup) s w fun l r s' _ => Q l (r.map f) s') :
    Asks o (Passage.act setup a >>= fun x => pure (f x)).run s w fun l r s' _ => Q l r s' := by
  refine asks_run_bind _ _ |>.2 (h.mono fun l r s' w' hl => ?_)
  cases r with
  | error m => exact hl
  | ok x =>
    dsimp only
    rw [asks_run_pure, List.append_nil]
    exact hl

/-- After an event has been carried out nothing more is asked for until it is open. -/
theorem asks_carriedOut
    (h : Asks o (Passage.carryOut setup event parent).run s w fun l r s' _ => Q l r s') :
    Asks o (Passage.openEvent setup event parent).run s w fun l r s' _ => Q l r s' := by
  rw [Passage.openEvent, asks_run_bind, asks_run_lift]
  refine h.mono fun l r s' w' hl => ?_
  dsimp only
  rw [Passage.tell, Passage.ofWorker, asks_run_bind, asks_run_lift, asks_ofWorker, World.asks_tell]
  refine asks_pure r |>.2 ?_
  rw [List.append_nil, List.append_nil]
  exact hl

theorem asks_act {a : Act α} {f : α → Opened} {named : Option String}
    (h : Asks o (a.play setup) s w fun l r _ _ => Resolves setup named l r.toBool) :
    Asks o (Passage.act setup a >>= fun x => pure (f x)).run s w fun l r _ _ =>
      Resolves setup named l r.toBool :=
  asks_actOpened (Q := fun l r _ => Resolves setup named l r.toBool) <|
    h.mono fun _ r _ _ hl => by cases r <;> exact hl

/-- An event asks for the file that it names by the time it is carried out. -/
theorem asks_openEvent (hkind : event.kind.namesFile = true) :
    Asks o (Passage.openEvent setup event parent).run s w fun l r _ _ =>
      Resolves setup (event.file? setup s) l r.toBool := by
  refine asks_carriedOut (Q := fun l r _ => Resolves setup (event.file? setup s) l r.toBool) ?_
  unfold Passage.carryOut
  obtain h | h | h | h | h := Kind.namesFile_iff.1 hkind <;> rw [h] <;> dsimp only
  · exact asks_act (Act.asks_csv h)
  · exact asks_act (Act.asks_javascript h)
  · exact asks_act (Act.asks_script h)
  · exact asks_act (Act.asks_saveHtml h)
  · exact asks_act (Act.asks_screenshot h)

end Opening

/-! ## Runs -/

/-- What an event asks for while it is carried out. -/
def Stay.asked (setup : Setup) (o : Outside σ) (stay : Stay σ) : List Action :=
  World.asked o ((Passage.openEvent setup stay.event stay.visit.parent).run stay.before.session)
    (stay.before.starting stay.event stay.visit.parent).world

/-- On a tour every event that names a file asks for it where the settings say, if it asks at all. -/
theorem Tour.resolves {leg : Leg} {m m' : Moment σ} {stays : List (Stay σ)} {r : Except Error Unit}
    (h : Tour setup o leg m stays r m') {stay : Stay σ} (hmem : stay ∈ Stay.allOf stays)
    (hkind : stay.event.kind.namesFile = true) :
    Resolves setup (stay.event.file? setup stay.before.session) (stay.asked setup o)
      stay.visit.result.toBool := by
  obtain ⟨r, m', hsingle⟩ := h.single_of_mem hmem
  obtain ⟨⟨event, parent, result⟩, before, carried, within, departure⟩ := stay
  have hopen : Comes o (Passage.openEvent setup event parent).run (before.starting event parent)
      result carried := by
    cases hsingle with
    | finished hopen _ _ _ => exact hopen
    | lost hopen _ _ => exact hopen
    | unwound hopen _ => exact hopen
  exact asks_openEvent hkind _ _ hopen

/-- A run that was started with a script has come to an end; all that its events have asked for by the
names of files lies below the directory of this script. -/
structure Located {config : Config} {path name : String} {o : Outside σ} {calendar : Calendar}
    {stopAt : Option Duration} {events : List Event} {outside : σ} {ended : Ended σ}
    (course : Course (config.forScript path name) o calendar stopAt events outside ended)
    (stays : List (Stay σ)) : Prop extends Toured course stays where
  /-- A path that is asked for is that of the name in the event, below the directory. -/
  only : ∀ stay ∈ Stay.allOf stays, stay.event.kind.namesFile = true →
    ∀ p ∈ (stay.asked (config.forScript path name) o).filterMap Action.path?,
      ∃ file, stay.event.file? (config.forScript path name) stay.before.session = some file ∧
        p = Path.resolve (Path.parent? path) file
  /-- Where the event has succeeded its file has been asked for, and only once. -/
  once : ∀ stay ∈ Stay.allOf stays, stay.event.kind.namesFile = true →
    stay.visit.result.toBool = true →
    ∀ file, stay.event.file? (config.forScript path name) stay.before.session = some file →
      (stay.asked (config.forScript path name) o).filterMap Action.path? =
        [Path.resolve (Path.parent? path) file]

section Runs

variable {config : Config} {path name : String} {calendar : Calendar} {stopAt : Option Duration}
  {events : List Event} {outside : σ} {ended : Ended σ}

theorem Toured.located {stays : List (Stay σ)}
    {course : Course (config.forScript path name) o calendar stopAt events outside ended}
    (h : Toured course stays) : Located course stays := by
  obtain ⟨begun, -, htour⟩ := h.tour
  refine ⟨h, fun stay hmem hkind p hp => ?_, fun stay hmem hkind hok file hfile => ?_⟩
  · obtain hpaths | ⟨hnone, -⟩ := htour.resolves hmem hkind
    · rw [hpaths] at hp
      obtain ⟨file, hfile, rfl⟩ := Option.map_eq_some_iff.1 (Option.mem_toList.1 hp)
      exact ⟨file, hfile, rfl⟩
    · rw [hnone] at hp
      cases hp
  · obtain hpaths | ⟨-, herror⟩ := htour.resolves hmem hkind
    · rw [hpaths, hfile]
      rfl
    · rw [hok] at herror
      cases herror

/-- **Every file that an event names is looked for below the directory of the script that the run was
started with**, however deep the event lies in included scripts, and wherever these are. -/
theorem located_of_run (hrun : (config.forScript path name).run o calendar stopAt events outside =
      some ended) :
    ∃ (course : Course (config.forScript path name) o calendar stopAt events outside ended)
      (stays : List (Stay σ)), Located course stays := by
  obtain ⟨course⟩ := exists_course hrun
  obtain ⟨stays, htoured⟩ := course.toured
  exact ⟨course, stays, htoured.located⟩

/-- An event names the text of its attribute if there is nothing to put into it. -/
theorem file?_of_plain {event : Event} {raw : String} (hkind : event.kind ≠ .command .csv)
    (hactions : event.actions = ⟨[("file", .text raw)]⟩)
    (hplain : Template.parse raw.toList = ⟨[], raw.toList⟩)
    (hfeeds : putLineFeeds raw.toList = raw.toList) (setup : Setup) (s : Session) :
    event.file? setup s = some raw := by
  have hfill : substitute setup.hijacks s.vars raw = raw := by
    rw [substitute, hplain, Template.expand, List.flatMap_nil, List.nil_append, hfeeds,
      String.ofList_toList]
  rw [Act.file?_of_kind_ne hkind, hactions]
  exact congrArg some hfill

/-- A script that saves the page. -/
def savingPart : List Event :=
  [{ kind := .command .savehtml, name := "savehtml", actions := ⟨[("file", .text "page.html")]⟩ }]

/-- A dry run in which this script is in a folder below. -/
def Outside.partBelow : Outside (Surroundings Rehearsal) :=
  Surroundings.outside (fun c r => Rehearsal.conduct r c) .atOnce []
    (.ofTable [("tests/sub/part.yaml", .ok savingPart)])

/-- The folders of the scripts. -/
def Files.testFolders : Files where
  entries := [(["tests"], .directory), (["tests", "sub"], .directory)]

/-- A script that includes another one. -/
def includingPart : List Event :=
  [{ kind := .command .script, name := "script", actions := ⟨[("file", .text "sub/part.yaml")]⟩ }]

theorem runs_includingPart : ∃ ended, (({} : Config).forScript "tests/main.yaml" "main").run
      .partBelow ⟨2020, 1, 1, 0, 0, 0⟩ none includingPart ⟨{}, .testFolders⟩ = some ended ∧
    ended.world.isStopped = false ∧ ¬ Lost ended.world.history ∧
    (starts ended.world.history).map (fun visit => (visit.1.kind, visit.1.actions)) =
      [(.command .script, ⟨[("file", .text "sub/part.yaml")]⟩),
        (.command .savehtml, ⟨[("file", .text "page.html")]⟩)] ∧
    (results ended.world.history).all (·.2.toBool) = true := by
  have hshown : ((({} : Config).forScript "tests/main.yaml" "main").run .partBelow
      ⟨2020, 1, 1, 0, 0, 0⟩ none includingPart ⟨{}, .testFolders⟩).map (fun ended =>
        (ended.world.isStopped, losses ended.world.history,
          (starts ended.world.history).map (fun visit => (visit.1.kind, visit.1.actions)),
          (results ended.world.history).all (·.2.toBool))) =
      some (false, [], [(.command .script, ⟨[("file", .text "sub/part.yaml")]⟩),
        (.command .savehtml, ⟨[("file", .text "page.html")]⟩)], true) := by
    decide +kernel
  obtain ⟨ended, hrun, hshown⟩ := Option.map_eq_some_iff.1 hshown
  rw [Prod.mk.injEq, Prod.mk.injEq, Prod.mk.injEq] at hshown
  obtain ⟨hgoes, hlosses, hstarts, hresults⟩ := hshown
  exact ⟨ended, hrun, hgoes, fun hlost => lost_iff.1 hlost hlosses, hstarts, hresults⟩

theorem located_includingPart : ∃ ended, (({} : Config).forScript "tests/main.yaml" "main").run
      .partBelow ⟨2020, 1, 1, 0, 0, 0⟩ none includingPart ⟨{}, .testFolders⟩ = some ended ∧
    (results ended.world.history).all (·.2.toBool) = true ∧
    ∃ (course : Course (({} : Config).forScript "tests/main.yaml" "main") .partBelow
        ⟨2020, 1, 1, 0, 0, 0⟩ none includingPart ⟨{}, .testFolders⟩ ended)
      (stays : List (Stay (Surroundings Rehearsal))), Located course stays := by
  obtain ⟨ended, hrun, -, -, -, hresults⟩ := runs_includingPart
  exact ⟨ended, hrun, hresults, located_of_run hrun⟩

/-- The page is saved beside the script that the run was started with, and not beside the one that
the event is written in. -/
theorem located_elsewhere : ∃ ended, (({} : Config).forScript "tests/main.yaml" "main").run
      .partBelow ⟨2020, 1, 1, 0, 0, 0⟩ none includingPart ⟨{}, .testFolders⟩ = some ended ∧
    ∃ (course : Course (({} : Config).forScript "tests/main.yaml" "main") .partBelow
        ⟨2020, 1, 1, 0, 0, 0⟩ none includingPart ⟨{}, .testFolders⟩ ended)
      (stays : List (Stay (Surroundings Rehearsal))), Toured course stays ∧
      ∃ outer ∈ stays, ∃ inner ∈ outer.within,
        (outer.asked (({} : Config).forScript "tests/main.yaml" "main") .partBelow).filterMap
          Action.path? = ["tests/sub/part.yaml"] ∧
        inner.event.file? (({} : Config).forScript "tests/main.yaml" "main")
          inner.before.session = some "page.html" ∧
        (inner.asked (({} : Config).forScript "tests/main.yaml" "main") .partBelow).filterMap
          Action.path? = ["tests/page.html"] ∧
        Path.resolve (Path.parent? "tests/sub/part.yaml") "page.html" = "tests/sub/page.html" := by
  obtain ⟨ended, hrun, hgoes, hkept, hstarts, hresults⟩ := runs_includingPart
  obtain ⟨course⟩ := exists_course hrun
  obtain ⟨stays, htoured⟩ := course.toured
  obtain ⟨begun, -, htour⟩ := htoured.tour
  rw [course.result_eq_ok_iff.2 hkept] at htour
  have hbefore := (course.later_after.trans course.later_end).goes hgoes
  -- the first of the two stays is in the script event, so the other one lies within it
  obtain ⟨outer, _, rfl, houter, hrest⟩ := List.map_eq_cons_iff.1 (htour.events_eq hbefore)
  obtain rfl := List.map_eq_nil_iff.1 hrest
  rw [htoured.starts_eq, Stay.allOf_singleton, List.map_map, List.map_cons] at hstarts
  obtain ⟨inner, _, hwithin, hinner, -⟩ := List.map_eq_cons_iff.1 (List.cons.inj hstarts).2
  have hmem : inner ∈ outer.within := by
    cases hlist : outer.within with
    | nil =>
      rw [hlist, Stay.allOf_nil] at hwithin
      cases hwithin
    | cons stay later =>
      rw [hlist, Stay.allOf, Stay.all_eq] at hwithin
      rw [← (List.cons.inj hwithin).1]
      exact List.mem_cons_self ..
  have hinnerMem : inner ∈ Stay.allOf [outer] := by
    rw [Stay.allOf_singleton]
    exact .tail _ (Stay.mem_allOf_of_mem hmem)
  have hok (stay : Stay (Surroundings Rehearsal)) (hstay : stay ∈ Stay.allOf [outer]) :
      stay.visit.result.toBool = true := by
    rw [htoured.results_eq, List.all_map, List.all_eq_true] at hresults
    exact hresults stay hstay
  have hkind : inner.event.kind = .command .savehtml := (Prod.mk.inj hinner).1
  let setup : Setup := ({} : Config).forScript "tests/main.yaml" "main"
  have houterFile : outer.event.file? setup outer.before.session = some "sub/part.yaml" :=
    file?_of_plain (by rw [houter]; decide) (by rw [houter]) (by decide +kernel)
      (by decide +kernel) _ _
  have hinnerFile : inner.event.file? setup inner.before.session = some "page.html" :=
    file?_of_plain (fun heq => absurd (hkind.symm.trans heq) (by decide)) (Prod.mk.inj hinner).2
      (by decide +kernel) (by decide +kernel) _ _
  have houterMem : outer ∈ Stay.allOf [outer] := Stay.mem_allOf_of_mem (.head _)
  refine ⟨ended, hrun, course, [outer], htoured, outer, .head _, inner, hmem, ?_, hinnerFile, ?_,
    by decide +kernel⟩
  · exact (htoured.located.once outer houterMem (by rw [houter]; rfl) (hok outer houterMem)
      _ houterFile).trans (by decide +kernel)
  · exact (htoured.located.once inner hinnerMem (by rw [hkind]; rfl) (hok inner hinnerMem)
      _ hinnerFile).trans (by decide +kernel)

end Runs

end PageScript
