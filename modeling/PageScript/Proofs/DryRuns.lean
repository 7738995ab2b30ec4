import PageScript.Proofs.RunPairs
import PageScript.Proofs.AnsweredSteps
import PageScript.Proofs.OutsideRequests
import PageScript.Proofs.Verdicts

/-!
# Dry runs side by side

The clock, the supervisor and the owner of a run look neither at the outside nor at what has
happened before. So a world may be put before another past and another outside, and lives through
the same.

The browser of a dry run gives out its elements by counting them, and its answers depend on the
count in nothing else. Two dry runs that differ in this count go on side by side, whatever services
they are beside: what they ask for is paired, and what they are answered is alike, as long as no
program is run, which may be told of an element. They make the same reports but for log lines that
show an element, so the counts of their reports are the same.
-/

namespace PageScript

variable {σ α β γ φ : Type}

/-! ## Another past -/

namespace World

/-- The world before another past, with another outside. -/
def atop {τ : Type} (u : World τ) (s : σ) (past : List Happening) : World σ :=
  { u with outside := s, history := u.history ++ past }

/-- A world without a past and without an outside. -/
def bare (w : World σ) : World Unit :=
  { w with outside := (), history := [] }

theorem bare_atop (w : World σ) : w.bare.atop w.outside w.history = w := rfl

section Over

variable (u : World Unit) (s : σ) (past : List Happening)

theorem stop_atop (who : Stopper) : (u.atop s past).stop who = (u.stop who).atop s past := by
  have hstopped : (u.atop s past).isStopped = u.isStopped := rfl
  rw [stop, stop, hstopped]
  split <;> rfl

theorem lookUntil_atop (next : Duration) :
    (u.atop s past).lookUntil next = (u.lookUntil next).atop s past := by
  have htick : (u.atop s past).nextTick = u.nextTick := rfl
  rw [lookUntil, lookUntil, htick]
  split
  · split <;> rfl
  · rfl

theorem reach_atop (due : Duration) (first : Bool) :
    (u.atop s past).reach due first = (u.reach due first).atop s past := by
  have htick : (u.atop s past).nextTick = u.nextTick := rfl
  rw [reach, reach, htick]
  split
  · exact congrArg (·.atTime due) (lookUntil_atop u s past _)
  · rfl

theorem ownerStops_atop : (u.atop s past).ownerStops = u.ownerStops.atop s past := by
  rw [ownerStops, stop_atop]
  rfl

theorem trip_atop : (u.atop s past).trip = u.trip.atop s past := by
  have hchecked : (u.atop s past).withWatchdog ((u.atop s past).watchdog.check (u.atop s past).now) =
      (u.withWatchdog (u.watchdog.check u.now)).atop s past := rfl
  rw [trip, hchecked, stop_atop]
  rfl

theorem sound_atop (alarm : Alarm) : (u.atop s past).sound alarm = (u.sound alarm).atop s past := by
  cases alarm with
  | owner t =>
    have hnow : (u.atop s past).now = u.now := rfl
    rw [sound, sound, hnow, reach_atop, ownerStops_atop]
  | trip t =>
    have hnow : (u.atop s past).now = u.now := rfl
    have htime (u : World Unit) : (u.atop s past).atTime (max u.now t) =
        (u.atTime (max u.now t)).atop s past := rfl
    rw [sound, sound, hnow, lookUntil_atop, ← now_lookUntil u t, htime, trip_atop]

theorem arrive_atop (g : Guard) (own due : Option Duration) :
    (u.atop s past).arrive g own due =
      ((u.arrive g own due).1, (u.arrive g own due).2.atop s past) := by
  cases due with
  | none => rfl
  | some t => exact congrArg (Prod.mk _) (reach_atop u s past t _)

theorem alarm?_atop (due : Option Duration) (first : Bool) :
    (u.atop s past).alarm? due first = u.alarm? due first := by
  have htrip : (u.atop s past).firstTrip = u.firstTrip := rfl
  rw [alarm?, alarm?, htrip]
  rfl

theorem await_atop (g : Guard) (own : Option Duration) :
    (u.atop s past).await g own = ((u.await g own).1, (u.await g own).2.atop s past) := by
  have hnow : (u.atop s past).now = u.now := rfl
  have hstopped : (u.atop s past).isStopped = u.isStopped := rfl
  have hfirst (due : Option Duration) :
      (u.atop s past).tickFirst g own due = u.tickFirst g own due := rfl
  unfold await
  simp only [hnow, hstopped, hfirst, alarm?_atop]
  split
  · rfl
  · split
    · rfl
    · split
      · exact arrive_atop u s past g own _
      · rw [sound_atop]
        split
        · rfl
        · exact arrive_atop _ s past g own _

theorem sleep_atop (g : Guard) (d : Duration) :
    (u.atop s past).sleep g d = ((u.sleep g d).1, (u.sleep g d).2.atop s past) := by
  unfold sleep
  split
  · rfl
  · exact await_atop u s past g _

theorem hang_atop (g : Guard) :
    (u.atop s past).hang g = ((u.hang g).1, (u.hang g).2.atop s past) := by
  rw [hang, hang, await_atop]

theorem live_atop (g : Guard) (beats : List Beat) (u : World Unit) :
    (u.atop s past).live g beats = ((u.live g beats).1, (u.live g beats).2.atop s past) := by
  induction beats generalizing u with
  | nil => rfl
  | cons beat beats ih =>
    cases beat with
    | rest d =>
      rw [live, live, sleep_atop]
      rcases u.sleep g d with ⟨_ | cut, u⟩
      · exact ih u
      · rfl
    | giveWay =>
      have hnow : (u.atop s past).now = u.now := rfl
      rw [live, live, hnow, await_atop]
      rcases u.await g (some u.now) with ⟨_ | cut, u⟩
      · exact ih u
      · rfl
    | stop =>
      rw [live, live, stop_atop]
      exact ih _
    | note r => exact ih (u.say (.record r))

theorem settle_atop : (u.atop s past).settle = u.settle.atop s past := by
  have htick : (u.atop s past).nextTick = u.nextTick := rfl
  have hnow : (u.atop s past).now = u.now := rfl
  have hdog : (u.atop s past).watchdog = u.watchdog := rfl
  unfold settle
  rw [htick, hnow, hdog]
  split
  · split
    · split
      · exact trip_atop u s past
      · exact reach_atop u s past _ _
    · rfl
  · rfl

theorem awaitOwner_atop : (u.atop s past).awaitOwner = u.awaitOwner.atop s past := by
  have hstopAt : (u.atop s past).stopAt = u.stopAt := rfl
  have hnow : (u.atop s past).now = u.now := rfl
  unfold awaitOwner
  rw [hstopAt, hnow, alarm?_atop]
  split
  · rfl
  · split
    · rw [sound_atop]
      exact ownerStops_atop (atTime _ _) s past
    · exact sound_atop u s past _

end Over

/-- The report that something that happens shows as. -/
def shown? : Happening → Option Report
  | .notice n => n.report?
  | .called _ => none

theorem reports_eq (w : World σ) : w.reports = (w.history.filterMap shown?).reverse := by
  rw [reports, notices, List.filterMap_filterMap, ← List.filterMap_reverse]
  refine List.filterMap_congr fun h _ => ?_
  cases h <;> rfl

theorem reports_happen (w : World σ) (h : Happening) :
    (w.happen h).reports = w.reports ++ (shown? h).toList := by
  rw [reports_eq, reports_eq, happen, List.filterMap_cons]
  cases shown? h with
  | none => exact (List.append_nil _).symm
  | some r => exact List.reverse_cons

/-- What is said is reported, and nothing else is. -/
theorem reports_say (w : World σ) (r : Remark) :
    (w.say r).reports = w.reports ++ r.notice.report?.toList :=
  reports_happen w _

theorem summary_atop (u : World Unit) (s : σ) (past : List Happening) :
    (u.atop s past).summary =
      u.reports.foldl Report.count (.ofReports (past.filterMap shown?).reverse) := by
  rw [summary, Summary.ofReports, reports_eq, reports_eq, atop, List.filterMap_append,
    List.reverse_append, List.foldl_append]
  rfl

/-- What something that happens does to the counts of reports. -/
def weigh (h : Happening) (s : Summary) : Summary :=
  ((shown? h).map (·.count s)).getD s

theorem summary_happen (w : World σ) (h : Happening) : (w.happen h).summary = weigh h w.summary := by
  rw [summary, Summary.ofReports, reports_eq, happen, weigh, List.filterMap_cons]
  cases shown? h with
  | none => rw [← reports_eq]; rfl
  | some r => rw [List.reverse_cons, List.foldl_append, ← reports_eq]; rfl

/-! ## Beside -/

/-- Two worlds of dry runs that differ only in how many elements have been found, and in what has
been shown of them. -/
structure Beside (w w' : World (Surroundings Rehearsal φ)) : Prop where
  rest : w' = { w with outside := w'.outside, history := w'.history }
  files_eq : w'.outside.files = w.outside.files
  browser : w'.outside.browser = { w.outside.browser with found := w'.outside.browser.found }
  summary_eq : w'.summary = w.summary

namespace Beside

variable {w w' : World (Surroundings Rehearsal φ)}

theorem bare_eq (h : w.Beside w') : w'.bare = w.bare :=
  (congrArg bare h.rest).trans rfl

/-- What both worlds live through alike may be put before their pasts. -/
theorem of_atop (h : w.Beside w') (u : World Unit) :
    (u.atop w.outside w.history).Beside (u.atop w'.outside w'.history) := by
  refine ⟨rfl, h.files_eq, h.browser, ?_⟩
  have hsummary := h.summary_eq
  rw [summary, summary, reports_eq, reports_eq] at hsummary
  rw [summary_atop, summary_atop, hsummary]

theorem answers {f : {σ : Type} → World σ → α × World σ}
    (hf : ∀ {σ : Type} (u : World Unit) (s : σ) (past : List Happening),
      f (u.atop s past) = ((f u).1, (f u).2.atop s past)) (h : w.Beside w') :
    (f w').1 = (f w).1 ∧ (f w).2.Beside (f w').2 := by
  have hw : f w = ((f w.bare).1, (f w.bare).2.atop w.outside w.history) :=
    hf w.bare w.outside w.history
  have hw' : f w' = ((f w.bare).1, (f w.bare).2.atop w'.outside w'.history) := by
    rw [← h.bare_eq]
    exact hf w'.bare w'.outside w'.history
  rw [hw, hw']
  exact ⟨rfl, h.of_atop _⟩

theorem map {f : {σ : Type} → World σ → World σ}
    (hf : ∀ {σ : Type} (u : World Unit) (s : σ) (past : List Happening),
      f (u.atop s past) = (f u).atop s past) (h : w.Beside w') : (f w).Beside (f w') :=
  (h.answers (f := fun w => ((), f w)) fun u s past => congrArg (Prod.mk ()) (hf u s past)).2

theorem happen (h : w.Beside w') {x x' : Happening} (hx : ∀ s, weigh x' s = weigh x s) :
    (w.happen x).Beside (w'.happen x') := by
  refine ⟨?_, h.files_eq, h.browser, by rw [summary_happen, summary_happen, h.summary_eq, hx]⟩
  rw [World.happen, World.happen, h.rest]

/-- The world may be left to what the outside is like by now. -/
theorem withOutside (h : w.Beside w') {s s' : Surroundings Rehearsal φ} (hfiles : s'.files = s.files)
    (hbrowser : s'.browser = { s.browser with found := s'.browser.found }) :
    (w.withOutside s).Beside (w'.withOutside s') := by
  refine ⟨?_, hfiles, hbrowser, h.summary_eq⟩
  rw [World.withOutside, World.withOutside, h.rest]

end Beside
end World

/-- An action that may change files. -/
def Action.mayWrite : Action → Bool
  | .writeFile .. | .runProcess _ => true
  | _ => false

/-! ## What is asked of a dry run -/

/-- An outside that answers at once, and puts nothing but records into the log before it does. -/
structure Conduct.Prompt (c : Conduct σ α) (x : α) : Prop where
  notes : ∀ beat ∈ c.beats, ∃ r, beat = .note r
  ending : c.ending = some (x, c.start)

theorem Conduct.Prompt.mapState {c : Conduct σ α} {x : α} (h : c.Prompt x) (f : σ → γ) :
    (c.mapState f).Prompt x :=
  ⟨h.notes, by rw [Conduct.mapState, h.ending]; rfl⟩

namespace Rehearsal

variable (r : Rehearsal)

theorem prompt_noted (x : α) (record : Record) : (r.noted x record).Prompt (.ok x) :=
  ⟨fun _ hmem => ⟨record, List.mem_singleton.1 hmem⟩, rfl⟩

theorem prompt_silent (x : α) : (r.silent x).Prompt (.ok x) := ⟨nofun, rfl⟩

theorem prompt_failing (e : BrowserError) : (r.failing e : Conduct _ (Except _ α)).Prompt (.error e) :=
  ⟨nofun, rfl⟩

/-- Two dry runs that have found different numbers of elements answer like calls alike, and go on to
differ in nothing else. -/
theorem conduct_akin {c c' : Call} {A : c.Answer → c'.Answer → Prop} {r r' : Rehearsal}
    (h : c.Akin (fun _ _ => True) c' A) (hr : r' = { r with found := r'.found }) :
    ∃ x x', (r.conduct c).Prompt x ∧ (r'.conduct c').Prompt x' ∧ Agrees A x x' ∧
      (r'.conduct c').start =
        { (r.conduct c).start with found := (r'.conduct c').start.found } := by
  have hclosed : r'.closed = r.closed := by rw [hr]
  have hurl : r'.url = r.url := by rw [hr]
  cases h with
  | bare hbare =>
    cases c with
    | windowHandles =>
      exact ⟨_, _, prompt_silent r _, prompt_silent r' _, by rw [hclosed]; exact .ok rfl, hr⟩
    | currentUrl => exact ⟨_, _, prompt_silent r _, prompt_silent r' _, .ok hurl.symm, hr⟩
    | currentWindow | title | pageSource | screenshot =>
      exact ⟨_, _, prompt_silent r _, prompt_silent r' _, .ok rfl, hr⟩
    | switchToWindow handle =>
      unfold conduct
      dsimp only
      split
      · exact ⟨_, _, prompt_silent r (), prompt_silent r' (), .ok rfl, hr⟩
      · exact ⟨_, _, prompt_failing r _, prompt_failing r' _, .error _, hr⟩
    | alertText | acceptAlert | dismissAlert =>
      exact ⟨_, _, prompt_failing r _, prompt_failing r' _, .error _, hr⟩
    | navigate | close =>
      exact ⟨_, _, prompt_noted _ () _, prompt_noted _ () _, .ok rfl, by rw [hr]; rfl⟩
    | switchToDefaultContent | back | forward | refresh =>
      exact ⟨_, _, prompt_noted r () _, prompt_noted r' () _, .ok rfl, hr⟩
    | executeScript _ => exact ⟨_, _, prompt_noted r "" _, prompt_noted r' "" _, .ok rfl, hr⟩
    | _ => cases hbare
  | find _ _ _ => exact ⟨_, _, prompt_noted _ _ _, prompt_noted _ _ _, .ok trivial, by rw [hr]; rfl⟩
  | text _ | value _ => exact ⟨_, _, prompt_noted r "" _, prompt_noted r' "" _, .ok rfl, hr⟩
  | isSelected _ | isEnabled _ =>
    exact ⟨_, _, prompt_silent r _, prompt_silent r' _, .ok rfl, hr⟩
  | _ => exact ⟨_, _, prompt_noted r () _, prompt_noted r' () _, .ok rfl, hr⟩

end Rehearsal

/-! ## Dry runs -/

namespace World

/-- Only records are added to the history. -/
structure Notes (w v : World σ) : Prop where
  rest : v = { w with history := v.history }
  summary_eq : v.summary = w.summary

theorem live_notes {beats : List Beat} (h : ∀ beat ∈ beats, ∃ r, beat = .note r) (g : Guard)
    (w : World σ) : ∃ v, w.live g beats = (none, v) ∧ w.Notes v := by
  induction beats generalizing w with
  | nil => exact ⟨w, rfl, rfl, rfl⟩
  | cons beat beats ih =>
    obtain ⟨⟨r, rfl⟩, hbeats⟩ := List.forall_mem_cons.1 h
    obtain ⟨v, hlive, hnotes⟩ := ih hbeats (w.say (.record r))
    exact ⟨v, hlive, hnotes.rest, hnotes.summary_eq.trans (summary_happen w _)⟩

/-- What an outside does that answers at once. -/
theorem act_of_prompt {o : Outside σ} {a : Action} {x : a.Answer} {w : World σ}
    (h : (o a w.outside).Prompt x) (g : Guard) :
    ∃ v, w.act o g a = (.ok x, v.withOutside (o a w.outside).start) ∧ (w.noteCall a).Notes v := by
  obtain ⟨v, hlive, hnotes⟩ :=
    live_notes h.notes g ((w.noteCall a).withOutside (o a w.outside).start)
  refine ⟨v.withOutside w.outside, ?_, ?_, hnotes.summary_eq⟩
  · unfold act
    dsimp only
    rw [hlive]
    dsimp only
    rw [h.ending]
    rfl
  · have hrest := congrArg (withOutside w.outside) hnotes.rest
    cases a <;> exact hrest

/-- What services do when they are asked depends on their own state alone, and so does what the world
lives through meanwhile. -/
theorem exists_act_atop {o : Outside (Surroundings Rehearsal φ)} {a : Action} (u : World Unit)
    (g : Guard) (c : Conduct φ a.Answer) :
    ∃ (x : Except Cut a.Answer) (u' : World Unit) (f : φ), (∀ c, a ≠ .call c) →
      ∀ {s : Surroundings Rehearsal φ}, o a s = c.mapState (fun files => { s with files }) →
        ∀ past, (u.atop s past).act o g a = (x, u'.atop { s with files := f } past) := by
  have hnote (hcall : ∀ c, a ≠ .call c) (s s' : Surroundings Rehearsal φ) (past : List Happening) :
      ((u.atop s past).noteCall a).withOutside s' = u.atop s' past := by
    cases a with
    | call call => exact absurd rfl (hcall call)
    | _ => rfl
  have hact (hcall : ∀ c, a ≠ .call c) {s : Surroundings Rehearsal φ}
      (hs : o a s = c.mapState fun files => { s with files }) (past : List Happening) :
      (u.atop s past).act o g a =
        match (u.live g c.beats).1, c.ending with
        | some cut, _ => (.error cut, (u.live g c.beats).2.atop { s with files := c.start } past)
        | none, some (x, f) => (.ok x, (u.live g c.beats).2.atop { s with files := f } past)
        | none, none => (.error ((u.live g c.beats).2.hang g).1,
          ((u.live g c.beats).2.hang g).2.atop { s with files := c.start } past) := by
    have houtside : (u.atop s past).outside = s := rfl
    unfold World.act
    rw [houtside, hs]
    dsimp only [Conduct.mapState]
    rw [hnote hcall, live_atop]
    cases (u.live g c.beats).1 with
    | some cut => rfl
    | none =>
      cases c.ending with
      | some ending => rfl
      | none =>
        dsimp only [Option.map_none]
        rw [hang_atop]
  rcases hlive : (u.live g c.beats).1 with _ | cut <;> rcases hend : c.ending with _ | ⟨x, f⟩ <;>
    simp only [hlive, hend] at hact <;> exact ⟨_, _, _, fun hcall _ hs past => hact hcall hs past⟩

namespace Beside

variable {w w' v v' : World (Surroundings Rehearsal φ)} {services : Services φ} {g : Guard}

theorem notes (h : w.Beside w') (hv : w.Notes v) (hv' : w'.Notes v') : v.Beside v' := by
  refine ⟨?_, ?_, ?_, by rw [hv'.summary_eq, hv.summary_eq, h.summary_eq]⟩
  · rw [hv'.rest, h.rest, hv.rest]
  · rw [hv'.rest, hv.rest]
    exact h.files_eq
  · rw [hv'.rest, hv.rest]
    exact h.browser

/-- Like calls of dry runs are answered alike. -/
theorem act_call (h : w.Beside w') {c c' : Call} {A : c.Answer → c'.Answer → Prop}
    (hc : c.Akin (fun _ _ => True) c' A) :
    Agrees (Agrees A) (w.act services.rehearsal g (.call c)).1 (w'.act services.rehearsal g (.call c')).1 ∧
      (w.act services.rehearsal g (.call c)).2.Beside (w'.act services.rehearsal g (.call c')).2 := by
  obtain ⟨x, x', hx, hx', hanswer, hstart⟩ := Rehearsal.conduct_akin hc h.browser
  have hcalls : (services.rehearsal (.call c) w.outside).Prompt x :=
    hx.mapState fun browser => ({ w.outside with browser } : Surroundings Rehearsal φ)
  have hcalls' : (services.rehearsal (.call c') w'.outside).Prompt x' :=
    hx'.mapState fun browser => ({ w'.outside with browser } : Surroundings Rehearsal φ)
  obtain ⟨v, hact, hnotes⟩ := act_of_prompt hcalls g
  obtain ⟨v', hact', hnotes'⟩ := act_of_prompt hcalls' g
  rw [hact, hact']
  have hcalled : (w.happen (.called c)).Beside (w'.happen (.called c')) := h.happen fun _ => rfl
  exact ⟨.ok hanswer, (hcalled.notes hnotes hnotes').withOutside h.files_eq hstart⟩

/-- What is no call is answered by the services, which take the same state on either side. -/
theorem act_serve (h : w.Beside w') {a : Action} (hcall : ∀ c, a ≠ .call c) :
    (w'.act services.rehearsal g a).1 = (w.act services.rehearsal g a).1 ∧
      (w.act services.rehearsal g a).2.Beside (w'.act services.rehearsal g a).2 := by
  obtain ⟨c, hserved⟩ : ∃ c : Conduct φ a.Answer, ∀ s : Surroundings Rehearsal φ,
      s.files = w.outside.files →
        services.rehearsal a s = c.mapState fun files => { s with files } := by
    cases a with
    | call c => exact absurd rfl (hcall c)
    | readFile path => exact ⟨services.readFile path w.outside.files, fun s hs => by rw [← hs]; rfl⟩
    | writeFile path content =>
      exact ⟨services.writeFile path content w.outside.files, fun s hs => by rw [← hs]; rfl⟩
    | runProcess p => exact ⟨services.runProcess p w.outside.files, fun s hs => by rw [← hs]; rfl⟩
    | loadScript path =>
      exact ⟨services.loadScript path w.outside.files, fun s hs => by rw [← hs]; rfl⟩
  obtain ⟨x, u, files, hact⟩ := exists_act_atop w.bare g c
  have hacts := hact hcall (hserved w.outside rfl) w.history
  have hacts' := hact hcall (hserved w'.outside h.files_eq) w'.history
  rw [bare_atop] at hacts
  rw [← h.bare_eq, bare_atop] at hacts'
  rw [hacts, hacts']
  exact ⟨rfl, (h.of_atop u).withOutside rfl h.browser⟩

/-- Whatever is asked for alike is answered alike. -/
theorem step (h : w.Beside w') {s : Step} (hinner : (Request.step g s).isInner = true) :
    (w'.step services.rehearsal g s).1 = (w.step services.rehearsal g s).1 ∧
      (w.step services.rehearsal g s).2.Beside (w'.step services.rehearsal g s).2 := by
  cases s with
  | act a =>
    refine h.act_serve fun c heq => ?_
    subst heq
    cases hinner
  | sleep d =>
    obtain ⟨hcut, hbeside⟩ := h.answers (f := fun w => w.sleep g d) fun u s past =>
      sleep_atop u s past g d
    unfold World.step
    dsimp only at hcut hbeside ⊢
    rcases hw : w.sleep g d with ⟨cut, v⟩
    rcases hw' : w'.sleep g d with ⟨cut', v'⟩
    rw [hw, hw'] at hcut hbeside
    obtain rfl : cut' = cut := hcut
    cases cut' <;> exact ⟨rfl, hbeside⟩
  | forever =>
    obtain ⟨hcut, hbeside⟩ := h.answers (f := fun w => w.hang g) fun u s past =>
      hang_atop u s past g
    exact ⟨congrArg Except.error hcut, hbeside⟩

theorem answer (h : w.Beside w') {r r' : Request} {A : r.Answer → r'.Answer → Prop}
    (hr : r.Akin (fun _ _ => True) r' A) (hsafe : ∀ a ∈ r.action?, a.mayWrite = false) :
    (w.answer services.rehearsal r = none ∧ w'.answer services.rehearsal r' = none) ∨
      ∃ x x' v v', w.answer services.rehearsal r = some (x, v) ∧
        w'.answer services.rehearsal r' = some (x', v') ∧ A x x' ∧ v.Beside v' := by
  cases hr with
  | say hr =>
    refine .inr ⟨(), (), _, _, rfl, rfl, rfl, h.happen fun s => ?_⟩
    cases hr <;> rfl
  | @tell s s' hs =>
    refine .inr ⟨(), (), _, _, rfl, rfl, rfl, h.happen fun n => ?_⟩
    exact congrArg (fun r => (r.map (·.count n)).getD n) hs
  | call g hc =>
    obtain ⟨hanswer, hbeside⟩ := h.act_call (g := g) hc
    exact .inr ⟨_, _, _, _, rfl, rfl, hanswer, hbeside⟩
  | process g p p' _ _ => cases hsafe _ rfl
  | inner hinner =>
    cases r with
    | step g s =>
      obtain ⟨hanswer, hbeside⟩ := h.step hinner
      exact .inr ⟨_, _, _, _, rfl, rfl, hanswer.symm, hbeside⟩
    | say r => exact .inr ⟨(), (), _, _, rfl, rfl, rfl, h.happen fun _ => rfl⟩
    | tell s => exact .inr ⟨(), (), _, _, rfl, rfl, rfl, h.happen fun _ => rfl⟩
    | stop who =>
      exact .inr ⟨(), (), _, _, rfl, rfl, rfl, h.map (f := fun w => w.stop (.inside who))
        fun u s past => stop_atop u s past _⟩
    | isStopped =>
      exact .inr ⟨_, _, _, _, rfl, rfl, (congrArg World.isStopped h.bare_eq).symm, h⟩
    | pulse =>
      exact .inr ⟨(), (), _, _, rfl, rfl, rfl, h.map (f := fun w => w.pulse) fun _ _ _ => rfl⟩
    | extend d =>
      exact .inr ⟨(), (), _, _, rfl, rfl, rfl, h.map (f := fun w => w.extend d) fun _ _ _ => rfl⟩
    | now => exact .inr ⟨_, _, _, _, rfl, rfl, (congrArg World.now h.bare_eq).symm, h⟩
    | calendar => exact .inr ⟨_, _, _, _, rfl, rfl, (congrArg World.calendar h.bare_eq).symm, h⟩
    | limit d => exact .inr ⟨_, _, _, _, rfl, rfl, (congrArg (World.limit · d) h.bare_eq).symm, h⟩
    | tooDeep => exact .inl ⟨rfl, rfl⟩

/-- **Paired workers come to like results in dry runs side by side**, if they change no files. -/
theorem run {R : α → β → Prop} {p : Worker α} {p' : Worker β}
    (hp : Worker.Paired (fun _ _ => True) R p p') (h : w.Beside w')
    (hsafe : ∀ a ∈ World.asked services.rehearsal p w, a.mayWrite = false) :
    (World.run services.rehearsal p w = none ∧ World.run services.rehearsal p' w' = none) ∨
      ∃ a b v v', World.run services.rehearsal p w = some (a, v) ∧
        World.run services.rehearsal p' w' = some (b, v') ∧ R a b ∧ v.Beside v' := by
  induction hp generalizing w w' with
  | done hab => exact .inr ⟨_, _, _, _, rfl, rfl, hab, h⟩
  | ask hr _ ih =>
    rw [run_ask, run_ask]
    rw [World.asked] at hsafe
    obtain ⟨hnone, hnone'⟩ | ⟨x, x', v, v', hsome, hsome', hx, hv⟩ :=
      h.answer hr fun a hmem => hsafe a (List.mem_append_left _ (Option.mem_toList.2 hmem))
    · rw [hnone, hnone']
      exact .inl ⟨rfl, rfl⟩
    · rw [hsome, hsome']
      refine ih x x' hx hv fun a hmem => hsafe a (List.mem_append_right _ ?_)
      rw [hsome]
      exact hmem

/-- Worlds that are side by side come to ends that are. -/
theorem conclude (h : w.Beside w') (owned : Bool) (outcome : Outcome) :
    (w'.conclude owned outcome).outcome = (w.conclude owned outcome).outcome ∧
      (w.conclude owned outcome).world.Beside (w'.conclude owned outcome).world := by
  have hsettled := h.map (f := World.settle) fun u s past => settle_atop u s past
  have hend := hsettled.map (f := World.awaitOwner) fun u s past => awaitOwner_atop u s past
  exact ⟨congrArg (fun u : World Unit => u.verdict outcome) hend.bare_eq, hend⟩

/-- Dry runs begin side by side. -/
theorem start (setup : Setup) (calendar : Calendar) {s s' : Surroundings Rehearsal φ}
    (hfiles : s'.files = s.files)
    (hbrowser : s'.browser = { s.browser with found := s'.browser.found }) :
    (World.start setup calendar none s).Beside (World.start setup calendar none s') := by
  have hdawn : (dawn setup calendar none s).Beside (dawn setup calendar none s') :=
    ⟨rfl, hfiles, hbrowser, rfl⟩
  exact hdawn.map (f := fun w => w.lookUntil setup.watchdogPoll) fun u s past =>
    lookUntil_atop u s past _

end Beside
end World
end PageScript
