import PageScript.CommandLine.Subcommand

/-!
# Verdicts

A command over scripts tells the truth about each of them. A script is sound on what the command
finds if it loads and builds, if its run comes to its end, and if not one report of the whole run
speaks against it. Every script is tried in its turn, whatever became of those before, and the
command succeeds if and only if every one of them is sound where it is tried; otherwise it says how
many are not. This holds on any host: whatever its browser, its files and its programs do, and
whatever its readers make of a text.

A result holds no reports any more but counts of them. So the first step is that the counts of a
list of reports keep what matters (`Summary.passed_ofReports`).
-/

namespace PageScript

namespace Text

theorem occurs_iff {needle s : List Char} : occurs needle s = true ↔ needle <:+: s := by
  induction s with
  | nil => simp [occurs]
  | cons c r ih => rw [occurs, Bool.or_eq_true, ih, List.isPrefixOf_iff_prefix, List.infix_cons_iff]

theorem contains_iff {hay needle : String} :
    contains hay needle = true ↔ needle.toList <:+: hay.toList :=
  occurs_iff

theorem exists_cutOnce {sep : Char} {s : List Char} (h : sep ∈ s) :
    ∃ pieces, cutOnce sep s = some pieces := by
  induction s with
  | nil => cases h
  | cons c r ih =>
    rw [cutOnce]
    split
    · exact ⟨_, rfl⟩
    · next hne =>
      obtain ⟨pieces, hr⟩ := ih ((List.mem_cons.1 h).resolve_left (Ne.symm hne))
      exact ⟨_, by rw [hr]; rfl⟩

end Text

/-! ## What speaks against a test -/

/-- A report that speaks against a test: an error, an exception, or a check that does not hold. -/
inductive Report.Accuses : Report → Prop where
  | error (message : String) : Accuses (.error message)
  | exception (message : String) (cause : Error) : Accuses (.exception message cause)
  | missing {expected text : String} (h : ¬ expected.toList <:+: text.toList) :
      Accuses (.check expected text)
  | present {unexpected text : String} (h : unexpected.toList <:+: text.toList) :
      Accuses (.checkNot unexpected text)

namespace Summary

theorem passed_iff {s : Summary} :
    s.passed = true ↔ s.errors = 0 ∧ s.exceptions = 0 ∧ s.checksFailed = 0 := by
  simp [passed, and_assoc]

/-- One more report leaves the counts clean if they were so and it speaks not against the test. -/
theorem passed_count (s : Summary) (r : Report) :
    (r.count s).passed = true ↔ s.passed = true ∧ ¬ r.Accuses := by
  cases r with
  | log message =>
    exact ⟨fun h => ⟨h, nofun⟩, fun h => h.1⟩
  | warning message =>
    exact ⟨fun h => ⟨h, nofun⟩, fun h => h.1⟩
  | error message =>
    refine ⟨fun h => ?_, fun h => absurd (.error message) h.2⟩
    exact absurd (passed_iff.1 h).1 (Nat.succ_ne_zero _)
  | exception message cause =>
    refine ⟨fun h => ?_, fun h => absurd (.exception message cause) h.2⟩
    exact absurd (passed_iff.1 h).2.1 (Nat.succ_ne_zero _)
  | check expected text =>
    by_cases hin : Text.contains text expected = true
    · have hnot : ¬ (Report.check expected text).Accuses := by
        rintro ⟨⟩
        next h => exact h (Text.contains_iff.1 hin)
      simp [Report.count, Report.verdict?, hin, hnot, passed]
    · have hac : (Report.check expected text).Accuses :=
        .missing fun h => hin (Text.contains_iff.2 h)
      simp [Report.count, Report.verdict?, hin, hac, passed]
  | checkNot unexpected text =>
    by_cases hin : Text.contains text unexpected = true
    · have hac : (Report.checkNot unexpected text).Accuses :=
        .present (Text.contains_iff.1 hin)
      simp [Report.count, Report.verdict?, hin, hac, passed]
    · have hnot : ¬ (Report.checkNot unexpected text).Accuses := by
        rintro ⟨⟩
        next h => exact hin (Text.contains_iff.2 h)
      simp [Report.count, Report.verdict?, hin, hnot, passed]

theorem passed_foldl (s : Summary) (reports : List Report) :
    (reports.foldl Report.count s).passed = true ↔
      s.passed = true ∧ ∀ r ∈ reports, ¬ r.Accuses := by
  induction reports generalizing s with
  | nil => simp
  | cons r reports ih => rw [List.foldl_cons, ih, passed_count, List.forall_mem_cons, and_assoc]

/-- The counts of reports are clean if and only if no report speaks against the test. -/
theorem passed_ofReports (reports : List Report) :
    (ofReports reports).passed = true ↔ ∀ r ∈ reports, ¬ r.Accuses := by
  have hempty : (({} : Summary).passed = true) := rfl
  rw [ofReports, passed_foldl]
  exact ⟨fun h => h.2, fun h => ⟨hempty, h⟩⟩

end Summary

/-! ## Scripts by themselves -/

section Scripts

variable {σ : Type}

/-- The transcript with more to show. -/
def Transcript.shows (t : Transcript σ) (printed : List String) (records : List Record) :
    Transcript σ :=
  { t with printed := t.printed ++ printed, records := t.records ++ records }

@[simp] theorem Transcript.surroundings_shows (t : Transcript σ) (printed : List String)
    (records : List Record) : (t.shows printed records).surroundings = t.surroundings := rfl

theorem Transcript.shows_shows (t : Transcript σ) (printed more : List String)
    (records others : List Record) :
    (t.shows printed records).shows more others = t.shows (printed ++ more) (records ++ others) := by
  simp [shows]

/-- The transcript once a run has ended. -/
def Transcript.ran (t : Transcript σ) (ended : Ended σ) : Transcript σ :=
  { t with
    surroundings := ended.world.outside
    records := t.records ++ ended.world.records }

/-- The settings of the run of a script file. -/
def Config.forScript (c : Config) (path name : String) : Setup :=
  c.setup name (c.plugins.map PluginConfig.configured) (Path.parent? path) true

/-- What a script comes to whose run has ended. -/
def Script.result (script : Script) (events : List Event) (ended : Ended σ) : TestResult where
  name := script.name
  events := Event.countAll events
  outcome := ended.outcome
  summary := ended.world.summary

namespace Shown

theorem run_bind {α β : Type} (x : Shown σ α) (f : α → Shown σ β) (t : Transcript σ) :
    (x >>= f).run t = (f (x.run t).1).run (x.run t).2 := rfl

theorem run_get (t : Transcript σ) : (get : Shown σ (Transcript σ)).run t = (t, t) := rfl

theorem run_note (records : List Record) (t : Transcript σ) :
    (note records).run t = ((), t.shows [] records) := by
  rw [Transcript.shows, List.append_nil]
  rfl

theorem run_print (line : String) (t : Transcript σ) :
    (print line).run t = ((), t.shows [line] []) := by
  rw [Transcript.shows, List.append_nil]
  rfl

theorem run_forM_print (lines : List String) (t : Transcript σ) :
    (lines.forM print).run t = ((), t.shows lines []) := by
  induction lines generalizing t with
  | nil =>
    rw [Transcript.shows, List.append_nil, List.append_nil]
    rfl
  | cons line lines ih =>
    refine (ih { t with printed := t.printed ++ [line] }).trans ?_
    simp [Transcript.shows]

end Shown

namespace Host

variable (host : Host σ)

theorem run_load_error {path : String} {t : Transcript σ} {e : Error}
    (hread : host.documents.readScript t.surroundings path = .error e) :
    (host.load path).run t = (.error e, t) := by
  rw [load, Shown.run_bind, Shown.run_get]
  simp only [hread]
  rfl

theorem run_load {path : String} {t : Transcript σ} {script : Script}
    (hread : host.documents.readScript t.surroundings path = .ok script) :
    (host.load path).run t =
      ((Event.ofNodes script.nodes).result.map fun events => (script, events),
        t.shows [] ((Event.ofNodes script.nodes).warnings.map BuildWarning.record)) := by
  rw [load, Shown.run_bind, Shown.run_get]
  simp only [hread]
  rw [Shown.run_bind, Shown.run_note]
  rfl

theorem run_runEvents (setup : Setup) (events : List Event) (t : Transcript σ) :
    (host.runEvents setup events).run t =
      match setup.run host.outside host.calendar none events t.surroundings with
      | none => (.error (.internal "Scripts include each other too deeply"), t)
      | some ended => (.ok (ended.outcome, ended.world.summary), t.ran ended) := by
  rw [runEvents, Shown.run_bind, Shown.run_get]
  simp only
  cases setup.run host.outside host.calendar none events t.surroundings with
  | none => rfl
  | some ended => rfl

theorem run_runScript_error (config : Config) (verbose : Bool) {path : String}
    {t t' : Transcript σ} {e : Error} (hload : (host.load path).run t = (.error e, t')) :
    (host.runScript config verbose path).run t = (.error e, t') := by
  rw [runScript, Shown.run_bind, hload]
  rfl

/-- How a script ends that can be read and built. -/
theorem run_runScript (config : Config) (verbose : Bool) {path : String}
    {t : Transcript σ} {script : Script} {events : List Event}
    (hread : host.documents.readScript t.surroundings path = .ok script)
    (hbuilt : (Event.ofNodes script.nodes).result = .ok events) :
    ∃ printed records, (host.runScript config verbose path).run t =
      match (config.forScript path script.name).run host.outside host.calendar none events
          t.surroundings with
      | none =>
        (.error (.internal "Scripts include each other too deeply"), t.shows printed records)
      | some ended =>
        let result := script.result events ended
        (.ok result,
          ((t.shows printed records).ran ended).shows (result.counts ++ [result.verdict]) []) := by
  have hload := host.run_load hread
  rw [hbuilt] at hload
  refine ⟨[] ++ (script.heading path (Event.countAll events) verbose ++ []),
    (Event.ofNodes script.nodes).warnings.map BuildWarning.record ++ ([] ++
      (Configured.active (config.plugins.map PluginConfig.configured)).map Registration.record), ?_⟩
  rw [runScript, Shown.run_bind, hload]
  -- the two cases are told apart by their equations, which never looks into what follows
  split
  next e he => cases he
  next script' events' he =>
  cases he
  rw [Shown.run_bind, Shown.run_forM_print, Shown.run_bind, Shown.run_note,
    Transcript.shows_shows, Transcript.shows_shows, Shown.run_bind, Config.forScript]
  generalize config.setup script.name _ _ _ = setup
  generalize hend : (host.runEvents setup events).run (t.shows _ _) = ends
  rw [run_runEvents, Transcript.surroundings_shows] at hend
  cases hrun : setup.run host.outside host.calendar none events t.surroundings with
  | none =>
    rw [hrun] at hend
    subst hend
    rfl
  | some ended =>
    rw [hrun] at hend
    subst hend
    split
    next e he => cases he
    next outcome summary he =>
      cases he
      rw [Shown.run_bind, Shown.run_forM_print]
      rfl

end Host

/-! ## Trials -/

/-- A script that has been tried, with what the command had shown before and after it. -/
structure Trial (σ : Type) where
  path : String
  before : Transcript σ
  result : Except Error TestResult
  after : Transcript σ

namespace Trial

/-- The trial of a script by a command. -/
def of (host : Host σ) (config : Config) (verbose : Bool) (path : String) (t : Transcript σ) :
    Trial σ where
  path
  before := t
  result := ((host.runScript config verbose path).run t).1
  after := ((host.runOne config verbose path).run t).2

/-- Scripts that are tried one after the other: every one of them, and each on what the one before
has left. -/
def each (host : Host σ) (config : Config) (verbose : Bool) :
    List String → Transcript σ → List (Trial σ)
  | [], _ => []
  | path :: paths, t =>
    let trial := of host config verbose path t
    trial :: each host config verbose paths trial.after

/-- Whether the script passed. -/
def passed (trial : Trial σ) : Bool :=
  match trial.result with
  | .ok result => result.passed
  | .error _ => false

/-- A script is sound on what the command finds: it loads and builds, its run comes to its end, and
no report of the whole run, the plugins before and after the test included, speaks against it. -/
def Sound (host : Host σ) (config : Config) (trial : Trial σ) : Prop :=
  ∃ script events ended,
    host.documents.readScript trial.before.surroundings trial.path = .ok script ∧
    (Event.ofNodes script.nodes).result = .ok events ∧
    (config.forScript trial.path script.name).run host.outside host.calendar none events
      trial.before.surroundings = some ended ∧
    ended.outcome = .completed ∧ ∀ r ∈ ended.world.reports, ¬ r.Accuses

variable {host : Host σ} {config : Config} {verbose : Bool}

theorem passed_result (script : Script) (events : List Event) (ended : Ended σ) :
    (script.result events ended).passed = true ↔
      ended.outcome = .completed ∧ ∀ r ∈ ended.world.reports, ¬ r.Accuses := by
  rw [TestResult.passed, Bool.and_eq_true, beq_iff_eq]
  exact and_congr_right fun _ => Summary.passed_ofReports _

/-- A script passes if and only if it is sound. -/
theorem passed_of (path : String) (t : Transcript σ) :
    (of host config verbose path t).passed = true ↔
      (of host config verbose path t).Sound host config := by
  -- a script that cannot be read or built, or whose run has no end, has not passed
  cases hread : host.documents.readScript t.surroundings path with
  | error e =>
    have hrun := host.run_runScript_error config verbose (host.run_load_error hread)
    refine iff_of_false (fun h => ?_) fun ⟨script, _, _, h, _⟩ => ?_
    · rw [passed, of, hrun] at h
      cases h
    · cases hread.symm.trans h
  | ok script =>
    cases hbuilt : (Event.ofNodes script.nodes).result with
    | error e =>
      have hload := host.run_load hread
      rw [hbuilt] at hload
      have hrun := host.run_runScript_error config verbose hload
      refine iff_of_false (fun h => ?_) fun ⟨_, _, _, h, hok, _⟩ => ?_
      · rw [passed, of, hrun] at h
        cases h
      · cases hread.symm.trans h
        cases hbuilt.symm.trans hok
    | ok events =>
      obtain ⟨printed, records, hrun⟩ := host.run_runScript config verbose hread hbuilt
      cases hend : (config.forScript path script.name).run host.outside host.calendar none events
          t.surroundings with
      | none =>
        rw [hend] at hrun
        refine iff_of_false (fun h => ?_) fun ⟨_, _, _, h, hok, hsome, _⟩ => ?_
        · rw [passed, of, hrun] at h
          cases h
        · cases hread.symm.trans h
          cases hbuilt.symm.trans hok
          cases hend.symm.trans hsome
      | some ended =>
        rw [hend] at hrun
        have hpassed : (of host config verbose path t).passed =
            (script.result events ended).passed := by
          rw [passed, of, hrun]
        rw [hpassed, passed_result]
        refine ⟨fun h => ⟨script, events, ended, hread, hbuilt, hend, h⟩, ?_⟩
        rintro ⟨_, _, _, h, hok, hsome, hclean⟩
        cases hread.symm.trans h
        cases hbuilt.symm.trans hok
        cases hend.symm.trans hsome
        exact hclean

theorem run_runOne (path : String) (t : Transcript σ) :
    (host.runOne config verbose path).run t =
      ((of host config verbose path t).passed, (of host config verbose path t).after) := by
  refine Prod.ext ?_ rfl
  rw [passed, of, Host.runOne, Shown.run_bind]
  cases ((host.runScript config verbose path).run t).1 with
  | ok result => rfl
  | error e => rfl

theorem run_runEach (paths : List String) (t : Transcript σ) :
    (host.runEach config verbose paths).run t =
      ((each host config verbose paths t).map passed,
        ((each host config verbose paths t).getLast?.map (·.after)).getD t) := by
  induction paths generalizing t with
  | nil => rfl
  | cons path paths ih =>
    rw [Host.runEach, List.mapM_cons, Shown.run_bind, run_runOne, Shown.run_bind]
    rw [Host.runEach] at ih
    rw [ih]
    refine Prod.ext rfl ?_
    rw [each, List.getLast?_cons]
    cases (each host config verbose paths (of host config verbose path t).after).getLast? with
    | none => rfl
    | some last => rfl

theorem path_each (paths : List String) (t : Transcript σ) :
    (each host config verbose paths t).map (·.path) = paths := by
  induction paths generalizing t with
  | nil => rfl
  | cons path paths ih => rw [each, List.map_cons, ih]; rfl

theorem passed_iff_of_mem {paths : List String} {t : Transcript σ} {trial : Trial σ}
    (h : trial ∈ each host config verbose paths t) :
    trial.passed = true ↔ trial.Sound host config := by
  induction paths generalizing t with
  | nil => cases h
  | cons path paths ih =>
    obtain rfl | h := List.mem_cons.1 h
    · exact passed_of path t
    · exact ih h

end Trial

/-! ## The verdict -/

open scoped Classical in
/-- What a command over scripts comes to, and what it shows in the end, told by the trials of its
scripts. -/
structure Verdict (host : Host σ) (config : Config) (trials : List (Trial σ))
    (result : Except Error Unit) (printed : List String) : Prop where
  /-- It succeeds if and only if every script is sound. -/
  succeeds : result = .ok () ↔ ∀ trial ∈ trials, trial.Sound host config
  /-- If it does not, it says how many scripts there were, and how many of them were not sound. -/
  fails : result = .ok () ∨ result =
    .error (.testsFailed (trials.countP fun trial => ¬ trial.Sound host config) trials.length)
  /-- Every script has been counted. -/
  counted : (trials.countP fun trial => trial.Sound host config) +
    (trials.countP fun trial => ¬ trial.Sound host config) = trials.length
  /-- The counts are shown if there is more than one script. -/
  shown : 1 < trials.length → printed.getLast? =
    some (toString (trials.countP fun trial => trial.Sound host config) ++ " passed, " ++
      toString (trials.countP fun trial => ¬ trial.Sound host config) ++ " failed")

/-- Overrides that are well written are all added. -/
theorem Config.addHijacks_of_forall_mem (config : Config) {args : List String}
    (h : ∀ arg ∈ args, '=' ∈ arg.toList) : (config.addHijacks args).2 = none := by
  induction args generalizing config with
  | nil => rfl
  | cons arg args ih =>
    obtain ⟨harg, hargs⟩ := List.forall_mem_cons.1 h
    obtain ⟨pieces, hcut⟩ := Text.exists_cutOnce harg
    rw [addHijacks, addHijack, hcut]
    exact ih _ hargs

theorem RunOptions.configuration_eq {o : RunOptions} {host : Host σ} {s : σ} {config : Config}
    (hconfig : host.documents.configAt host.ownConfig s o.config = .ok config)
    (hhijacks : ∀ arg ∈ o.hijacks, '=' ∈ arg.toList) :
    o.configuration host s = .ok (config.addHijacks o.hijacks).1 := by
  have hadded : config.addHijacks o.hijacks = ((config.addHijacks o.hijacks).1, none) :=
    Prod.ext rfl (config.addHijacks_of_forall_mem hhijacks)
  have hbind (f : Config → Except Error Config) : (Except.ok config >>= f) = f config := rfl
  rw [configuration, hconfig, hbind, hadded]
  rfl

open scoped Classical in
/-- What a command comes to that counts how many of its trials passed. -/
theorem verdict_of_counts {host : Host σ} {config : Config} {trials : List (Trial σ)}
    {printed : List String} (h : ∀ trial ∈ trials, trial.passed = true ↔ trial.Sound host config)
    (hshown : 1 < trials.length → printed.getLast? =
      some (toString (trials.length - (trials.map Trial.passed).count false) ++ " passed, " ++
        toString ((trials.map Trial.passed).count false) ++ " failed")) :
    Verdict host config trials
      (failures ((trials.map Trial.passed).count false) trials.length) printed := by
  have hfailed : (trials.map Trial.passed).count false =
      trials.countP fun trial => ¬ trial.Sound host config := by
    rw [List.count, List.countP_map]
    refine List.countP_congr fun trial hmem => ?_
    have hiff := h trial hmem
    cases hp : trial.passed <;> simp [hp] at hiff ⊢ <;> exact hiff
  have hcounted : (trials.countP fun trial => trial.Sound host config) +
      (trials.countP fun trial => ¬ trial.Sound host config) = trials.length := by
    rw [List.length_eq_countP_add_countP fun trial => trial.Sound host config]
    simp
  have hzero : (trials.countP fun trial => ¬ trial.Sound host config) = 0 ↔
      ∀ trial ∈ trials, trial.Sound host config := by
    simp [List.countP_eq_zero]
  rw [hfailed] at hshown ⊢
  refine ⟨?_, ?_, hcounted, fun hmany => ?_⟩
  · rw [← hzero, failures]
    split
    · next hz => exact ⟨fun _ => hz, fun _ => rfl⟩
    · next hz => exact ⟨nofun, fun h => absurd h hz⟩
  · rw [failures]
    split
    · exact .inl rfl
    · exact .inr rfl
  · rw [hshown hmany]
    congr 5
    omega

/-- A command over scripts counts how many of its trials passed, and shows the counts if there is
more than one. -/
theorem Trial.run_dispatch {host : Host σ} {o : RunOptions} {t : Transcript σ} {config : Config}
    (hconfig : o.configuration host t.surroundings = .ok config) :
    let trials := each host config o.verbose o.scripts t
    let last := (trials.getLast?.map (·.after)).getD t
    let failed := (trials.map passed).count false
    (host.dispatch (.run o)).run t =
      (failures failed trials.length,
        if 1 < trials.length then
          last.shows [toString (trials.length - failed) ++ " passed, " ++ toString failed ++
            " failed"] []
        else last) := by
  intro trials last failed
  rw [Host.dispatch, Host.runScripts, Shown.run_bind, Shown.run_get]
  dsimp only
  rw [hconfig]
  dsimp only
  rw [Shown.run_bind, Trial.run_runEach, List.length_map]
  dsimp only
  split
  · rw [Shown.run_bind, Shown.run_print]
    rfl
  · rfl

theorem Trial.result_dispatch {host : Host σ} {o : RunOptions} {t : Transcript σ} {config : Config}
    (hconfig : o.configuration host t.surroundings = .ok config) :
    ((host.dispatch (.run o)).run t).1 =
      failures (((each host config o.verbose o.scripts t).map passed).count false)
        ((each host config o.verbose o.scripts t).map passed).length := by
  rw [run_dispatch hconfig, List.length_map]

/-- **The verdict of a command over scripts.** On any host, every script is tried in its turn; the
command succeeds if and only if each of them is sound where it is tried, and otherwise it says how
many are not. -/
theorem verdict_of_run {host : Host σ} {o : RunOptions} {t : Transcript σ} {config : Config}
    (hconfig : host.documents.configAt host.ownConfig t.surroundings o.config = .ok config)
    (hhijacks : ∀ arg ∈ o.hijacks, '=' ∈ arg.toList) :
    let config := (config.addHijacks o.hijacks).1
    let trials := Trial.each host config o.verbose o.scripts t
    trials.map (·.path) = o.scripts ∧
      ∃ result t', (host.dispatch (.run o)).run t = (result, t') ∧
        Verdict host config trials result t'.printed := by
  intro config' trials
  have hsound : ∀ trial ∈ trials, trial.passed = true ↔ trial.Sound host config' :=
    fun _ => Trial.passed_iff_of_mem
  refine ⟨Trial.path_each o.scripts t, _, _,
    Trial.run_dispatch (RunOptions.configuration_eq hconfig hhijacks),
    verdict_of_counts hsound fun hmany => ?_⟩
  rw [if_pos hmany, Transcript.shows, List.getLast?_append]
  rfl

end Scripts

/-! ### Four scripts -/

/-- The backend of files in a table by path, whose scripts are known by their texts. Nothing can be
written, and there are no programs. -/
def Backend.ofTable (scripts : Bindings Script) (calendar : Calendar) : Backend (Bindings String) :=
  let documents : Documents (Bindings String) :=
    { readText := fun files path =>
        match files.get? path with
        | some text => .ok text
        | none => .error .notFound
      has := fun files path => (files.get? path).isSome
      asScript := fun text =>
        match scripts.get? text with
        | some script => .ok script
        | none => .error "not a script"
      asConfig := fun _ => .error "not a configuration" }
  { documents
    services :=
      { readFile := fun path files =>
          (Conduct.answer files (documents.readText files path)).after [.giveWay]
        writeFile := fun _ _ files => .answer files (.error .permissionDenied)
        runProcess := fun _ files => .answer files (.error (.file .notFound))
        loadScript := fun path files => (Conduct.answer files ((documents.readScript files path).bind
          fun script => (Event.ofNodes script.nodes).result)).after [.giveWay] }
    calendar }

namespace Script

/-- The text of a script that passes in a dry run. -/
def smokeText : String :=
  "name: Smoke\nevents:\n  - tag: var\n    attributes: \x7b var: who, set: world \x7d\n  - tag: puts\n"
    ++ "    attributes: \x7b txt: \"hello \x7b@who\x7d\" \x7d\n  - tag: div\n"
    ++ "    attributes: \x7b id: main \x7d\n    children:\n      - tag: button\n"
    ++ "        attributes: \x7b id: go, click: true \x7d\n"

def smoke : Script where
  name := "Smoke"
  nodes := [
    { tag := "var", attributes := [("var", "who"), ("set", "world")] },
    { tag := "puts", attributes := [("txt", "hello \x7b@who\x7d")] },
    { tag := "div", attributes := [("id", "main")], children := [
      { tag := "button", attributes := [("id", "go"), ("click", "true")] }] }]

/-- The text of a script that looks for something on a page that is empty in a dry run. -/
def welcomeText : String :=
  "name: Assert\nevents:\n  - tag: browser\n    attributes: \x7b assert: Welcome \x7d\n"

def welcome : Script where
  name := "Assert"
  nodes := [{ tag := "browser", attributes := [("assert", "Welcome")] }]

/-- The text of a script with an attribute that its tag does not have. -/
def misspeltText : String :=
  "name: Bad\nevents:\n  - tag: puts\n    attributes: \x7b text: hi \x7d\n"

def misspelt : Script where
  name := "Bad"
  nodes := [{ tag := "puts", attributes := [("text", "hi")] }]

/-- What a reader makes of these texts. -/
def samples : Bindings Script :=
  [(smokeText, smoke), (welcomeText, welcome), (misspeltText, misspelt)]

end Script

/-- A host with the files of these scripts. -/
abbrev Host.ofSamples : Host (Surroundings Rehearsal (Bindings String)) :=
  (Backend.ofTable Script.samples ⟨2020, 1, 1, 0, 0, 0⟩).rehearsing

/-- Of four scripts the first is sound; the second has a check that fails, the third is not built,
and the last is not there. -/
theorem verdict_of_fourScripts :
    let o : RunOptions :=
      { scripts := ["smoke.yaml", "welcome.yaml", "misspelt.yaml", "none.yaml"],
        hijacks := ["user=ada"] }
    let t : Transcript (Surroundings Rehearsal (Bindings String)) :=
      .start [("smoke.yaml", Script.smokeText), ("welcome.yaml", Script.welcomeText),
        ("misspelt.yaml", Script.misspeltText)]
    let config : Config := { hijacks := [("user", "ada")] }
    let trials := Trial.each .ofSamples config o.verbose o.scripts t
    (Host.ofSamples.documents.configAt Host.ofSamples.ownConfig t.surroundings o.config = .ok {} ∧
      ∀ arg ∈ o.hijacks, '=' ∈ arg.toList) ∧
    trials.map Trial.passed = [true, false, false, false] ∧
    ∃ t', (Host.ofSamples.dispatch (.run o)).run t = (.error (.testsFailed 3 4), t') ∧
      Verdict .ofSamples config trials (.error (.testsFailed 3 4)) t'.printed ∧
      t'.printed.getLast? = some "1 passed, 3 failed" := by
  intro o t config trials
  have hconfig : Host.ofSamples.documents.configAt Host.ofSamples.ownConfig t.surroundings
      o.config = .ok {} := rfl
  have hhijacks : ∀ arg ∈ o.hijacks, '=' ∈ arg.toList := by decide
  have hpassed : trials.map Trial.passed = [true, false, false, false] := by decide +kernel
  have hprinted : ((Host.ofSamples.dispatch (.run o)).run t).2.printed.getLast? =
      some "1 passed, 3 failed" := by decide +kernel
  have hadded : o.configuration Host.ofSamples t.surroundings = .ok config := rfl
  have hresult := Trial.result_dispatch hadded
  rw [hpassed] at hresult
  obtain ⟨-, result, t', hrun, hverdict⟩ := verdict_of_run hconfig hhijacks
  rw [hrun] at hprinted hresult
  obtain rfl : result = .error (.testsFailed 3 4) := hresult
  exact ⟨⟨hconfig, hhijacks⟩, hpassed, t', hrun, hverdict, hprinted⟩

end PageScript
