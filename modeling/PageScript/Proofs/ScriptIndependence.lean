import Mathlib
import PageScript.Proofs.DryRuns

/-!
# Scripts by themselves and in a row

A command over scripts makes everything anew for each of them but one thing: the browser of its dry
runs. What it hands on are the address that was last opened, whether its window is closed, and how
many elements have been found. The last does not matter. So the result of a script is that of the
script tried by itself on the same files, in a browser with the same address whose window is closed
or not as it is; and it is that of the script tried at the very start if no script before it has
opened an address or closed the window. Nothing else is handed on by scripts that write no files and
start no programs. All of this holds beside any services and for any readers of documents, as long as
reading a file or a script leaves the state of the services as it is.

A script that closes the window and does not open it again does so for all that come after it.
-/

namespace PageScript

variable {σ α β φ : Type} {E : Element → Element → Prop}

/-! ## Configured plugins -/

namespace Task

/-- A task that only says something. -/
def Quiet : Task α → Prop
  | .done _ => True
  | .ask (.say _) next => ∀ x, Quiet (next x)
  | .ask _ _ => False

theorem quiet_say (r : Remark) : (say r).Quiet := fun _ => trivial

theorem Quiet.bind {t : Task α} {f : α → Task β} (h : t.Quiet) (hf : ∀ a, (f a).Quiet) :
    (t >>= f).Quiet := by
  induction t with
  | done a => exact hf a
  | ask d next ih =>
    cases d with
    | say r => exact fun x => ih x (h x)
    | step _ | stop => cases h

theorem quiet_forM {f : α → Task Unit} (h : ∀ a, (f a).Quiet) (l : List α) :
    (l.forM f).Quiet := by
  induction l with
  | nil => trivial
  | cons a l ih => exact (h a).bind fun _ => ih

theorem Quiet.paired {t : Task α} (h : t.Quiet) (g : Guard) :
    Worker.Paired E Eq (t.under g) (t.under g) := by
  induction t with
  | done a => exact .done rfl
  | ask d next ih =>
    cases d with
    | say r => exact (Worker.paired_say (.refl r)).bind_self fun _ => ih () (h ())
    | step _ | stop => cases h

end Task

namespace CommandPlugin

variable (p : CommandPlugin) (c : PluginContext)

/-- What a plugin does once its program has ended, or could not be started. -/
def afterwards : Except StartError Finished → Task (Except Error Unit)
  | .error e => return .error (.plugin p.name ("failed to start: " ++ e.message))
  | .ok finished => do
    (shownLines finished.output).forM fun line => Task.say (.log (p.name ++ ": " ++ line))
    if finished.status.isSuccess then return .ok ()
    else
      return .error (.plugin p.name ("exited with " ++ finished.status.message ++ ": "
        ++ Text.trimmed (Text.decodeAny finished.errors)))

/-- The record that the program of a plugin is about to run. -/
def announcement : Remark :=
  .note .debug .programs "Running plugin command"
    [("plugin", p.name), ("command", p.command),
      ("args", Text.quotedList ((p.arguments c).map Text.quoted))]

theorem execute_eq : p.execute c = (do
    Task.say (p.announcement c)
    p.afterwards (← Task.act (.runProcess (p.process c)))) := by
  refine congrArg (Program.ask _) (funext fun _ => congrArg (Program.ask _) (funext fun x => ?_))
  cases x <;> rfl

theorem quiet_afterwards (x : Except StartError Finished) : (p.afterwards x).Quiet := by
  cases x with
  | error e => trivial
  | ok finished =>
    have hlines : ((shownLines finished.output).forM fun line =>
        Task.say (.log (p.name ++ ": " ++ line))).Quiet := Task.quiet_forM (fun _ => Task.quiet_say _) _
    refine hlines.bind fun _ => ?_
    split <;> trivial

/-- A program is told the same, unless the elements at hand are different ones. -/
theorem process_akin {c c' : PluginContext} (h : c.Akin E c') :
    p.process c' = p.process c ∨ ∃ e e', E e e' ∧ e ≠ e' := by
  have hsame (heq : c'.element = c.element) : p.process c' = p.process c := by
    rw [h.rest, heq]
  have helement := h.element
  generalize helt : c.element = element, helt' : c'.element = element' at helement
  cases helement with
  | none => exact .inl (hsame (helt'.trans helt.symm))
  | @some e e' he =>
    by_cases heq : e = e'
    · exact .inl (hsame (helt'.trans (heq ▸ helt.symm)))
    · exact .inr ⟨e, e', he, heq⟩

/-- **A plugin that runs a program does not look into the element at hand**: it only tells the
program of it. -/
theorem steady : p.toPlugin.Steady E := by
  intro g phase c c' hc
  have hunder (c : PluginContext) :
      Task.under g (Task.act (.runProcess (p.process c)) >>= p.afterwards) =
        Worker.step g (.act (.runProcess (p.process c))) >>= fun r =>
          match r with
          | .ok x => Task.under g (p.afterwards x)
          | .error cut => pure (.error cut) := by
    change Task.under g (.ask (.step (.act (.runProcess (p.process c)))) p.afterwards) = _
    rw [Task.under]
    exact bind_congr fun r => by cases r <;> rfl
  have hexecute : Worker.Paired E Eq (Task.under g (p.execute c)) (Task.under g (p.execute c')) := by
    have harguments : p.arguments c' = p.arguments c := by rw [hc.rest]; rfl
    rw [execute_eq, execute_eq, announcement, announcement, harguments]
    refine (Worker.paired_say (.refl _)).bind_self fun _ => ?_
    change Worker.Paired E Eq (Task.under g (Task.act (.runProcess (p.process c)) >>= p.afterwards))
      (Task.under g (Task.act (.runProcess (p.process c')) >>= p.afterwards))
    rw [hunder, hunder]
    obtain heq | ⟨e, e', he, hne⟩ := p.process_akin hc
    · rw [heq]
      refine (Worker.paired_inner rfl).bind_self fun x => ?_
      cases x with
      | error cut => exact .done rfl
      | ok x => exact (p.quiet_afterwards x).paired g
    · exact .ask (.process g _ _ he hne) nofun
  refine (Worker.paired_unlessStopped g (R := Eq) ?_).mono fun _ _ => Agrees.eq
  refine (Worker.paired_tell rfl).bind_self fun _ => hexecute.bind ?_
  rintro result _ rfl
  cases result with
  | ok x => exact (Worker.paired_tell rfl).bind_self fun _ => .done (.ok rfl)
  | error cut => exact (Worker.paired_tell rfl).bind_self fun _ => .done (.error cut)

end CommandPlugin

/-- The plugins of a configuration run programs. -/
theorem Config.steady_forScript (config : Config) (path name : String) :
    (config.forScript path name).Steady E := by
  intro r hmem
  obtain ⟨configured, hin, rfl⟩ := List.mem_map.1 hmem
  obtain ⟨p, -, rfl⟩ := List.mem_map.1 hin
  exact CommandPlugin.steady _

/-! ## What a run leaves of the outside -/

/-- Whatever the outside is like, something of it outlasts an action. -/
def Action.Keeps (o : Outside σ) (K : σ → σ → Prop) (a : Action) : Prop :=
  ∀ s, K s (o a s).start ∧ ∀ x s', (o a s).ending = some (x, s') → K s s'

namespace World

variable {o : Outside σ} {w w' : World σ}

theorem outside_live (g : Guard) (beats : List Beat) (w : World σ) :
    (w.live g beats).2.outside = w.outside := by
  induction beats generalizing w with
  | nil => rfl
  | cons beat beats ih =>
    cases beat with
    | rest d =>
      have hsleep := outside_sleep w g d
      rw [live]
      rcases hres : w.sleep g d with ⟨_ | cut, w'⟩ <;> rw [hres] at hsleep
      · exact (ih w').trans hsleep
      · exact hsleep
    | giveWay =>
      have hawait := outside_await w g (some w.now)
      rw [live]
      rcases hres : w.await g (some w.now) with ⟨_ | cut, w'⟩ <;> rw [hres] at hawait
      · exact (ih w').trans hawait
      · exact hawait
    | stop => exact (ih _).trans (outside_stop w _)
    | note r => exact ih (w.say (.record r))

/-- The outside is left as it was when it started on an action, or when it ended it. -/
theorem outside_act (g : Guard) (a : Action) :
    (w.act o g a).2.outside = (o a w.outside).start ∨
      ∃ x s, (o a w.outside).ending = some (x, s) ∧ (w.act o g a).2.outside = s := by
  have hlive := outside_live g (o a w.outside).beats
    ((w.noteCall a).withOutside (o a w.outside).start)
  unfold act
  dsimp only
  rcases hres : ((w.noteCall a).withOutside (o a w.outside).start).live g (o a w.outside).beats with
    ⟨_ | cut, v⟩ <;> rw [hres] at hlive
  · cases hend : (o a w.outside).ending with
    | some ending => exact .inr ⟨ending.1, ending.2, rfl, rfl⟩
    | none => exact .inl ((outside_await v g none).trans hlive)
  · exact .inl hlive

/-- What outlasts each action that a run asks for outlasts the run. -/
theorem keeps_run {K : σ → σ → Prop} (hrefl : ∀ s, K s s)
    (htrans : ∀ s s' s'', K s s' → K s' s'' → K s s'') {p : Worker α} {a : α}
    (hkeeps : ∀ a ∈ asked o p w, a.Keeps o K) (hrun : run o p w = some (a, w')) :
    K w.outside w'.outside := by
  induction p generalizing w with
  | done b =>
    obtain ⟨-, rfl⟩ := Prod.mk.inj (Option.some.inj hrun)
    exact hrefl _
  | ask r next ih =>
    rw [run_ask] at hrun
    obtain ⟨⟨x, w₁⟩, hanswer, hrest⟩ := Option.bind_eq_some_iff.1 hrun
    rw [asked, hanswer] at hkeeps
    refine htrans _ w₁.outside _ ?_
      (ih x (fun a hmem => hkeeps a (List.mem_append_right _ hmem)) hrest)
    have hsame (h : w₁.outside = w.outside) : K w.outside w₁.outside := h ▸ hrefl _
    cases r with
    | step g s =>
      obtain ⟨-, rfl⟩ := Prod.mk.inj (Option.some.inj hanswer)
      cases s with
      | act a =>
        have hact := hkeeps a (List.mem_append_left _ (List.mem_singleton.2 rfl)) w.outside
        obtain hstart | ⟨x, s, hending, hend⟩ := outside_act (o := o) (w := w) g a
        · exact hstart ▸ hact.1
        · exact hend ▸ hact.2 x s hending
      | sleep d =>
        have hsleep := outside_sleep w g d
        refine hsame ?_
        dsimp only
        rcases hres : w.sleep g d with ⟨_ | cut, v⟩ <;> rw [hres] at hsleep <;> exact hsleep
      | forever => exact hsame (outside_await w g none)
    | stop who =>
      obtain ⟨-, rfl⟩ := Prod.mk.inj (Option.some.inj hanswer)
      exact hsame (outside_stop w _)
    | tooDeep => cases hanswer
    | _ =>
      obtain ⟨-, rfl⟩ := Prod.mk.inj (Option.some.inj hanswer)
      exact hsame rfl

theorem outside_settle (w : World σ) : w.settle.outside = w.outside := by
  unfold settle
  split
  · split
    · split
      · exact outside_stop _ _
      · exact outside_reach _ _ _
    · rfl
  · rfl

theorem outside_awaitOwner (w : World σ) : w.awaitOwner.outside = w.outside := by
  unfold awaitOwner
  split
  · rfl
  · split
    · exact (outside_stop _ _).trans (outside_sound w _)
    · exact outside_sound w _

theorem outside_start (setup : Setup) (calendar : Calendar) (stopAt : Option Duration)
    (s : σ) : (start setup calendar stopAt s).outside = s := by
  unfold start
  dsimp only
  split
  · exact outside_stop _ _
  · exact outside_lookUntil _ _

end World

/-! ## Dry runs -/

/-- The state is taken up as it was and left as it was. -/
structure Conduct.Leaves (c : Conduct σ α) (s : σ) : Prop where
  start : c.start = s
  ending : ∀ x s', c.ending = some (x, s') → s' = s

theorem Conduct.Leaves.mapState {c : Conduct σ α} {s : σ} (h : c.Leaves s) (f : σ → φ) :
    (c.mapState f).Leaves (f s) := by
  refine ⟨congrArg f h.start, fun x s' hending => ?_⟩
  obtain ⟨⟨y, r⟩, hend, heq⟩ := Option.map_eq_some_iff.1 hending
  rw [← (Prod.mk.inj heq).2]
  exact congrArg f (h.ending y r hend)

theorem Conduct.leaves_answer (s : σ) (x : α) (beats : List Beat) :
    ((Conduct.answer s x).after beats).Leaves s :=
  ⟨rfl, fun _ _ h => (Prod.mk.inj (Option.some.inj h)).2.symm⟩

/-- Reading a file or a script changes nothing. -/
structure Services.ReadOnly (v : Services φ) : Prop where
  readFile : ∀ path f, (v.readFile path f).Leaves f
  loadScript : ∀ path f, (v.loadScript path f).Leaves f

/-- The backend that the program has of its own leaves its files as they are where it only reads. -/
theorem Machine.readOnly_backend (m : Machine) : m.backend.services.ReadOnly :=
  ⟨fun _ _ => Conduct.leaves_answer _ _ _, fun _ _ => Conduct.leaves_answer _ _ _⟩

section DryRuns

variable {services : Services φ}

/-- An action that changes what a browser of dry runs hands on: where it is, or that its window is
closed. -/
def Action.moves : Action → Bool
  | .call (.navigate _) | .call .close => true
  | _ => false

/-- What does not write leaves the files beside a dry run as they are. -/
theorem Action.keeps_files (hread : services.ReadOnly) {a : Action} (h : a.mayWrite = false) :
    a.Keeps services.rehearsal fun s s' => s'.files = s.files := by
  intro s
  cases a with
  | call c =>
    refine ⟨rfl, fun x s' hending => ?_⟩
    obtain ⟨y, -, heq⟩ := Option.map_eq_some_iff.1 hending
    cases heq
    rfl
  | readFile path =>
    have hleaves := (hread.readFile path s.files).mapState fun files => { s with files }
    exact ⟨congrArg (·.files) hleaves.start, fun x s' h => congrArg (·.files) (hleaves.ending x s' h)⟩
  | writeFile | runProcess => cases h
  | loadScript path =>
    have hleaves := (hread.loadScript path s.files).mapState fun files => { s with files }
    exact ⟨congrArg (·.files) hleaves.start, fun x s' h => congrArg (·.files) (hleaves.ending x s' h)⟩

/-- A call is like itself. -/
theorem Call.exists_akin (h : ∀ e, E e e) (c : Call) : ∃ A, c.Akin E c A := by
  cases c with
  | find selectors parent patience =>
    refine ⟨_, .find selectors patience ?_⟩
    cases parent with
    | none => exact .none
    | some p => exact .some (h p)
  | click e => exact ⟨_, .click (h e)⟩
  | text e => exact ⟨_, .text (h e)⟩
  | value e => exact ⟨_, .value (h e)⟩
  | setValue e _ => exact ⟨_, .setValue _ (h e)⟩
  | appendValue e _ => exact ⟨_, .appendValue _ (h e)⟩
  | clear e => exact ⟨_, .clear (h e)⟩
  | isSelected e => exact ⟨_, .isSelected (h e)⟩
  | isEnabled e => exact ⟨_, .isEnabled (h e)⟩
  | selectOption e _ => exact ⟨_, .selectOption _ (h e)⟩
  | fireEvent e _ => exact ⟨_, .fireEvent _ (h e)⟩
  | switchToFrame t => exact ⟨_, .switchToFrame (.refl t)⟩
  | dragAndDrop e f => exact ⟨_, .dragAndDrop (h e) (h f)⟩
  | _ => exact ⟨_, .bare rfl⟩

/-- What moves nothing leaves the browser of a dry run where it is. -/
theorem Action.keeps_browser {a : Action} (h : a.moves = false) :
    a.Keeps services.rehearsal fun s s' =>
      s'.browser.url = s.browser.url ∧ s'.browser.closed = s.browser.closed := by
  intro s
  cases a with
  | call c =>
    have hstart : ((s.browser.conduct c).start.url = s.browser.url ∧
        (s.browser.conduct c).start.closed = s.browser.closed) := by
      cases c with
      | navigate | close => cases h
      | switchToWindow handle =>
        unfold Rehearsal.conduct
        dsimp only
        split <;> exact ⟨rfl, rfl⟩
      | _ => exact ⟨rfl, rfl⟩
    refine ⟨hstart, fun x s' hending => ?_⟩
    obtain ⟨A, hc⟩ := c.exists_akin (E := fun _ _ => True) fun _ => trivial
    obtain ⟨y, -, hy, -⟩ := Rehearsal.conduct_akin hc
      (rfl : s.browser = { s.browser with found := s.browser.found })
    obtain ⟨z, hz, heq⟩ := Option.map_eq_some_iff.1 hending
    obtain rfl := Option.some.inj (hy.ending.symm.trans hz)
    cases heq
    exact hstart
  | _ =>
    refine ⟨⟨rfl, rfl⟩, fun x s' hending => ?_⟩
    obtain ⟨y, -, heq⟩ := Option.map_eq_some_iff.1 hending
    cases heq
    exact ⟨rfl, rfl⟩

/-- What is asked for in the run of some events. -/
def Setup.asked (setup : Setup) (o : Outside σ) (calendar : Calendar) (events : List Event)
    (s : σ) : List Action :=
  World.asked o (setup.worker events (setup.session calendar)) (.start setup calendar none s)

/-- **A dry run does not depend on how many elements have been found before**, if it writes
nothing. -/
theorem Setup.run_eq {setup : Setup} (hsteady : setup.Steady fun _ _ => True) {events : List Event}
    {calendar : Calendar} {s s' : Surroundings Rehearsal φ} (hfiles : s'.files = s.files)
    (hbrowser : s'.browser = { s.browser with found := s'.browser.found })
    (hwrite : ∀ a ∈ setup.asked services.rehearsal calendar events s, a.mayWrite = false) :
    (setup.run services.rehearsal calendar none events s').map
        (fun ended => (ended.outcome, ended.world.summary)) =
      (setup.run services.rehearsal calendar none events s).map
        fun ended => (ended.outcome, ended.world.summary) := by
  have hrun := World.Beside.run (setup.paired_worker hsteady events calendar)
    (.start setup calendar hfiles hbrowser) hwrite
  unfold Setup.run
  dsimp only
  obtain ⟨hnone, hnone'⟩ | ⟨outcome, _, w, w', hsome, hsome', rfl, hbeside⟩ := hrun
  · rw [hnone, hnone']
  · obtain ⟨houtcome, hend⟩ := hbeside.conclude false outcome
    rw [hsome, hsome']
    exact congrArg some (Prod.ext houtcome hend.summary_eq)

/-- What outlasts each action that a run asks for outlasts the run. -/
theorem Setup.keeps_run {o : Outside σ} {setup : Setup} {calendar : Calendar} {events : List Event}
    {s : σ} {K : σ → σ → Prop} (hrefl : ∀ s, K s s)
    (htrans : ∀ s s' s'', K s s' → K s' s'' → K s s'')
    (hkeeps : ∀ a ∈ setup.asked o calendar events s, a.Keeps o K) {ended : Ended σ}
    (hrun : setup.run o calendar none events s = some ended) : K s ended.world.outside := by
  obtain ⟨⟨outcome, w⟩, hworker, rfl⟩ := Option.map_eq_some_iff.1 hrun
  have hkept := World.keeps_run hrefl htrans hkeeps hworker
  rw [World.outside_start] at hkept
  have hend : (w.conclude false outcome).world.outside = w.outside :=
    (World.outside_awaitOwner _).trans (World.outside_settle w)
  exact hend ▸ hkept

end DryRuns

/-! ## Trials -/

namespace Trial

section Asked

variable {host : Host σ} {config : Config} {verbose : Bool} {path : String} {t : Transcript σ}

/-- What the run of a script asks for, if the script loads and builds. -/
def asked (host : Host σ) (config : Config) (trial : Trial σ) : List Action :=
  match host.documents.readScript trial.before.surroundings trial.path with
  | .error _ => []
  | .ok script =>
    match (Event.ofNodes script.nodes).result with
    | .error _ => []
    | .ok events => (config.forScript trial.path script.name).asked host.outside host.calendar events
        trial.before.surroundings

/-- The script writes no files and starts no programs. -/
def Harmless (host : Host σ) (config : Config) (trial : Trial σ) : Prop :=
  ∀ a ∈ trial.asked host config, a.mayWrite = false

/-- The script opens no address and closes no window. -/
def Stays (host : Host σ) (config : Config) (trial : Trial σ) : Prop :=
  ∀ a ∈ trial.asked host config, a.moves = false

theorem asked_of {script : Script} {events : List Event}
    (hread : host.documents.readScript t.surroundings path = .ok script)
    (hbuilt : (Event.ofNodes script.nodes).result = .ok events) :
    (of host config verbose path t).asked host config =
      (config.forScript path script.name).asked host.outside host.calendar events
        t.surroundings := by
  have hread' : host.documents.readScript (of host config verbose path t).before.surroundings
      (of host config verbose path t).path = .ok script := hread
  rw [asked, hread']
  dsimp only
  rw [hbuilt]
  rfl

/-- What outlasts each action that a script asks for outlasts its trial. -/
theorem keeps_after {K : σ → σ → Prop} (hrefl : ∀ s, K s s)
    (htrans : ∀ s s' s'', K s s' → K s' s'' → K s s'')
    (hkeeps : ∀ a ∈ (of host config verbose path t).asked host config, a.Keeps host.outside K) :
    K t.surroundings (of host config verbose path t).after.surroundings := by
  have hafter : (of host config verbose path t).after.surroundings =
      ((host.runScript config verbose path).run t).2.surroundings := by
    change ((host.runOne config verbose path).run t).2.surroundings = _
    rw [Host.runOne, Shown.run_bind]
    cases ((host.runScript config verbose path).run t).1 with
    | ok result => rfl
    | error e => rfl
  rw [hafter]
  cases hread : host.documents.readScript t.surroundings path with
  | error e =>
    rw [host.run_runScript_error config verbose (host.run_load_error hread)]
    exact hrefl _
  | ok script =>
    cases hbuilt : (Event.ofNodes script.nodes).result with
    | error e =>
      have hload := host.run_load hread
      rw [hbuilt] at hload
      rw [host.run_runScript_error config verbose hload]
      exact hrefl _
    | ok events =>
      rw [asked_of hread hbuilt] at hkeeps
      have hrun (ended : Ended σ) (hrun : Setup.run _ _ _ _ _ _ = some ended) :=
        Setup.keeps_run hrefl htrans hkeeps hrun
      obtain ⟨printed, records, hscript⟩ := host.run_runScript config verbose hread hbuilt
      rw [hscript]
      revert hrun
      generalize Setup.run _ _ _ _ events t.surroundings = ends
      intro hrun
      rcases ends with _ | ended
      · exact hrefl _
      · exact hrun ended rfl

/-- What outlasts each action that scripts ask for is there when a later one is tried. -/
theorem keeps_before {K : σ → σ → Prop} (hrefl : ∀ s, K s s)
    (htrans : ∀ s s' s'', K s s' → K s' s'' → K s s'')
    {paths : List String} {earlier later : List (Trial σ)} {trial : Trial σ}
    (hsplit : each host config verbose paths t = earlier ++ trial :: later)
    (hkeeps : ∀ x ∈ earlier, ∀ a ∈ x.asked host config, a.Keeps host.outside K) :
    trial = of host config verbose trial.path trial.before ∧
      K t.surroundings trial.before.surroundings := by
  induction earlier generalizing paths t with
  | nil =>
    cases paths with
    | nil => cases hsplit
    | cons path paths =>
      obtain ⟨rfl, -⟩ := List.cons.inj hsplit
      exact ⟨rfl, hrefl _⟩
  | cons first earlier ih =>
    cases paths with
    | nil => cases hsplit
    | cons path paths =>
      obtain ⟨rfl, hrest⟩ := List.cons.inj hsplit
      obtain ⟨hfirst, hearlier⟩ := List.forall_mem_cons.1 hkeeps
      obtain ⟨htrial, hkept⟩ := ih hrest hearlier
      exact ⟨htrial, htrans _ _ _ (keeps_after hrefl htrans hfirst) hkept⟩

end Asked

section Rehearsing

variable {b : Backend φ} {config : Config} {verbose : Bool} {path : String}
  {t t' : Transcript (Surroundings Rehearsal φ)}

/-- **The result of a script depends on the files and on where the browser is**, and on nothing else,
if the script is harmless. -/
theorem result_eq
    (hharmless : (of b.rehearsing config verbose path t).Harmless b.rehearsing config)
    (hfiles : t'.files = t.files)
    (hbrowser : t'.surroundings.browser =
      { t.surroundings.browser with found := t'.surroundings.browser.found }) :
    (of b.rehearsing config verbose path t').result =
      (of b.rehearsing config verbose path t).result := by
  change ((b.rehearsing.runScript config verbose path).run t').1 =
    ((b.rehearsing.runScript config verbose path).run t).1
  have hreads : b.rehearsing.documents.readScript t'.surroundings path =
      b.rehearsing.documents.readScript t.surroundings path :=
    congrArg (b.documents.readScript · path) hfiles
  cases hread : b.rehearsing.documents.readScript t.surroundings path with
  | error e =>
    have hread' := hreads.trans hread
    rw [Host.run_runScript_error _ config verbose (Host.run_load_error _ hread),
      Host.run_runScript_error _ config verbose (Host.run_load_error _ hread')]
  | ok script =>
    have hread' := hreads.trans hread
    cases hbuilt : (Event.ofNodes script.nodes).result with
    | error e =>
      have hload := Host.run_load _ hread
      have hload' := Host.run_load _ hread'
      rw [hbuilt] at hload hload'
      rw [Host.run_runScript_error _ config verbose hload,
        Host.run_runScript_error _ config verbose hload']
    | ok events =>
      rw [Harmless, asked_of hread hbuilt] at hharmless
      have hrun := Setup.run_eq (config.steady_forScript path script.name) hfiles hbrowser hharmless
      obtain ⟨printed, records, hscript⟩ := Host.run_runScript _ config verbose hread hbuilt
      obtain ⟨printed', records', hscript'⟩ := Host.run_runScript _ config verbose hread' hbuilt
      rw [hscript, hscript']
      revert hrun
      change Option.map _ (Setup.run _ b.rehearsing.outside b.rehearsing.calendar _ _ _) =
        Option.map _ (Setup.run _ b.rehearsing.outside b.rehearsing.calendar _ _ _) → _
      generalize Setup.run _ _ _ _ events t.surroundings = ends
      generalize Setup.run _ _ _ _ events t'.surroundings = ends'
      intro hrun
      rcases ends with _ | ended <;> rcases ends' with _ | ended'
      · rfl
      · cases hrun
      · cases hrun
      · obtain ⟨houtcome, hsummary⟩ := Prod.mk.inj (Option.some.inj hrun)
        dsimp only
        rw [Script.result, Script.result, houtcome, hsummary]

/-- What a script comes to depends on where the browser is that it is handed, but not on what the
browser has found. -/
theorem result_eq_of_browser {trial : Trial (Surroundings Rehearsal φ)}
    (htrial : trial = of b.rehearsing config verbose trial.path trial.before)
    (hharmless : trial.Harmless b.rehearsing config)
    {alone : Transcript (Surroundings Rehearsal φ)} (hfiles : alone.files = trial.before.files)
    (hurl : alone.surroundings.browser.url = trial.before.surroundings.browser.url)
    (hclosed : alone.surroundings.browser.closed = trial.before.surroundings.browser.closed) :
    trial.result = (of b.rehearsing config verbose trial.path alone).result := by
  have hbrowser : alone.surroundings.browser = { trial.before.surroundings.browser with
      found := alone.surroundings.browser.found } := by
    dsimp only
    rw [← hurl, ← hclosed]
  rw [htrial] at hharmless
  rw [result_eq hharmless hfiles hbrowser, ← htrial]

end Rehearsing
end Trial

/-- **Scripts are independent of those before them but for the browser they are handed.** What a
script comes to in a command over harmless ones is what it comes to by itself, on the same files and
in a browser at the same address whose window is closed or not as it is; and it is what it comes to
at the very start, if no script before it has opened an address or closed the window. -/
theorem independent_of_run {b : Backend φ} (hread : b.services.ReadOnly) {o : RunOptions}
    {t : Transcript (Surroundings Rehearsal φ)} {config : Config}
    (hconfig : o.configuration b.rehearsing t.surroundings = .ok config) :
    let trials := Trial.each b.rehearsing config o.verbose o.scripts t
    ((b.rehearsing.dispatch (.run o)).run t).1 =
        failures ((trials.map Trial.passed).count false) trials.length ∧
      ∀ earlier trial later, trials = earlier ++ trial :: later →
        (∀ x ∈ earlier ++ [trial], x.Harmless b.rehearsing config) →
        (∀ alone : Transcript (Surroundings Rehearsal φ), alone.files = t.files →
          alone.surroundings.browser.url = trial.before.surroundings.browser.url →
          alone.surroundings.browser.closed = trial.before.surroundings.browser.closed →
          trial.result = (Trial.of b.rehearsing config o.verbose trial.path alone).result) ∧
        ((∀ x ∈ earlier, x.Stays b.rehearsing config) →
          trial.result = (Trial.of b.rehearsing config o.verbose trial.path t).result) := by
  intro trials
  refine ⟨congrArg Prod.fst (Trial.run_dispatch hconfig), fun earlier trial later hsplit hall => ?_⟩
  have hharmless : trial.Harmless b.rehearsing config :=
    hall trial (List.mem_append_right _ (List.mem_singleton.2 rfl))
  have hearlier (x : Trial _) (hx : x ∈ earlier) : x.Harmless b.rehearsing config :=
    hall x (List.mem_append_left _ hx)
  refine ⟨fun alone hfiles hurl hclosed => ?_, fun hstays => ?_⟩
  · obtain ⟨htrial, hkept⟩ := Trial.keeps_before
      (K := fun s s' : Surroundings Rehearsal φ => s'.files = s.files)
      (fun _ => rfl) (fun _ _ _ h h' => h'.trans h) hsplit
      fun x hx a ha => Action.keeps_files hread (hearlier x hx a ha)
    exact Trial.result_eq_of_browser htrial hharmless (hfiles.trans hkept.symm) hurl hclosed
  · -- scripts that leave the page and the windows alone hand on what the first one has found
    have hkeeps (x : Trial _) (hx : x ∈ earlier) (a : Action) (ha : a ∈ x.asked b.rehearsing config) :
        a.Keeps b.rehearsing.outside fun s s' => s'.files = s.files ∧
          s'.browser.url = s.browser.url ∧ s'.browser.closed = s.browser.closed := by
      have hbrowser : a.Keeps b.rehearsing.outside fun s s' => s'.browser.url = s.browser.url ∧
          s'.browser.closed = s.browser.closed := Action.keeps_browser (hstays x hx a ha)
      intro s
      obtain ⟨hstart, hend⟩ := Action.keeps_files hread (hearlier x hx a ha) s
      exact ⟨⟨hstart, (hbrowser s).1⟩, fun y s' h => ⟨hend y s' h, (hbrowser s).2 y s' h⟩⟩
    obtain ⟨htrial, hfiles, hurl, hclosed⟩ := Trial.keeps_before (fun _ => ⟨rfl, rfl, rfl⟩)
      (fun _ _ _ h h' => ⟨h'.1.trans h.1, h'.2.1.trans h.2.1, h'.2.2.trans h.2.2⟩) hsplit hkeeps
    exact Trial.result_eq_of_browser htrial hharmless hfiles.symm hurl.symm hclosed.symm

/-! ### A script after one that finds elements -/

namespace Script

/-- The text of a script that looks for something within a window, and shows a variable that only
other scripts set. -/
def windowText : String :=
  "name: Window\nevents:\n  - tag: attach\n    attributes: \x7b index: 0 \x7d\n    children:\n"
    ++ "      - tag: div\n        attributes: \x7b id: main, click: true \x7d\n"
    ++ "  - tag: puts\n    attributes: \x7b txt: \"\x7b@who\x7d\" \x7d\n"

def window : Script where
  name := "Window"
  nodes := [
    { tag := "attach", attributes := [("index", "0")], children := [
      { tag := "div", attributes := [("id", "main"), ("click", "true")] }] },
    { tag := "puts", attributes := [("txt", "\x7b@who\x7d")] }]

/-- The text of a script that closes the window. -/
def closingText : String :=
  "name: Closing\nevents:\n  - tag: browser\n    attributes: \x7b action: close \x7d\n"

def closing : Script where
  name := "Closing"
  nodes := [{ tag := "browser", attributes := [("action", "close")] }]

end Script

/-- The backend of these scripts. -/
abbrev Backend.ofWindows : Backend (Bindings String) :=
  ofTable [(Script.smokeText, Script.smoke), (Script.windowText, Script.window),
    (Script.closingText, Script.closing)] ⟨2020, 1, 1, 0, 0, 0⟩

theorem Backend.readOnly_ofTable (scripts : Bindings Script) (calendar : Calendar) :
    (ofTable scripts calendar).services.ReadOnly :=
  ⟨fun _ _ => Conduct.leaves_answer _ _ _, fun _ _ => Conduct.leaves_answer _ _ _⟩

/-- The second script is handed a browser that has found elements, and comes to the same as at the
very start. -/
theorem independent_of_smoke :
    let host : Host (Surroundings Rehearsal (Bindings String)) := Backend.ofWindows.rehearsing
    let o : RunOptions := { scripts := ["smoke.yaml", "window.yaml"] }
    let t : Transcript (Surroundings Rehearsal (Bindings String)) :=
      .start [("smoke.yaml", Script.smokeText), ("window.yaml", Script.windowText)]
    let first := Trial.of host {} false "smoke.yaml" t
    let second := Trial.of host {} false "window.yaml" first.after
    (Backend.ofWindows.services.ReadOnly ∧ o.configuration host t.surroundings = .ok {} ∧
      Trial.each host {} false o.scripts t = [first] ++ second :: [] ∧
      (∀ x ∈ [first] ++ [second], x.Harmless host {}) ∧ ∀ x ∈ [first], x.Stays host {}) ∧
    (first.passed = true ∧ second.passed = true ∧ second.before.surroundings.browser.found = 2) ∧
    second.result = (Trial.of host {} false "window.yaml" t).result := by
  intro host o t first second
  have hread := Backend.readOnly_ofTable [(Script.smokeText, Script.smoke),
    (Script.windowText, Script.window), (Script.closingText, Script.closing)] ⟨2020, 1, 1, 0, 0, 0⟩
  have hconfig : o.configuration host t.surroundings = .ok {} := rfl
  have hsplit : Trial.each host {} false o.scripts t = [first] ++ second :: [] := rfl
  have hfirst : ∀ a ∈ first.asked host {}, a.mayWrite = false ∧ a.moves = false := by
    decide +kernel
  have hsecond : ∀ a ∈ second.asked host {}, a.mayWrite = false := by decide +kernel
  have hharmless : ∀ x ∈ [first] ++ [second], x.Harmless host {} :=
    List.forall_mem_cons.2 ⟨fun a ha => (hfirst a ha).1, List.forall_mem_singleton.2 hsecond⟩
  have hstays : ∀ x ∈ [first], x.Stays host {} :=
    List.forall_mem_singleton.2 fun a ha => (hfirst a ha).2
  have hshown : first.passed = true ∧ second.passed = true ∧
      second.before.surroundings.browser.found = 2 := by decide +kernel
  exact ⟨⟨hread, hconfig, hsplit, hharmless, hstays⟩, hshown,
    ((independent_of_run hread hconfig).2 [first] second [] hsplit hharmless).2 hstays⟩

/-- A script that attaches to a window passes by itself, but not after one that closes it, although
neither of them writes anything. -/
theorem handedOn_closed :
    let host : Host (Surroundings Rehearsal (Bindings String)) := Backend.ofWindows.rehearsing
    let t : Transcript (Surroundings Rehearsal (Bindings String)) :=
      .start [("closing.yaml", Script.closingText), ("window.yaml", Script.windowText)]
    let trials := Trial.each host {} false ["closing.yaml", "window.yaml"] t
    (∀ x ∈ trials, ∀ a ∈ x.asked host {}, a.mayWrite = false) ∧
      (Trial.of host {} false "window.yaml" t).passed = true ∧
      trials.map Trial.passed = [true, false] := by
  decide +kernel

end PageScript
