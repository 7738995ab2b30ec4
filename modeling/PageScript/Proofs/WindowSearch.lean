import PageScript.Proofs.DryRuns
import PageScript.Proofs.ActEndings
import PageScript.Proofs.WindowInUse
import PageScript.Proofs.AllowedWaits

/-!
# Looking for a window

An event that attaches to a window looks for it, again and again until its patience is over. While the
windows stay as they are and the browser answers without delay, only the pauses between two looks take
time. So the first look already decides: if the window is there, it is in use at once; and if it is
not, each further look comes one second after the one before, the last one when the patience has run
out, and then the window from before is in use again.

The looks of a search are read off the run itself: `Looks` lists the times at which they begin, from
one moment of the run to another.
-/

namespace PageScript

variable {σ α β : Type} {o : Outside σ} {setup : Setup} {event : Event} {s s' : Session}
  {w w' w'' : World σ}

/-! ## The clock -/

namespace World

/-- A wait that is not given up is over when its time has come. -/
theorem now_of_await {t : Duration} (h : w.await (.untilStop none) (some t) = (none, w')) :
    w'.now = t := by
  have hdue : earlier (some t) ((Guard.untilStop none).limit?.map (·.due)) = some t := rfl
  unfold await at h
  rw [if_neg (by simp [Guard.limit?]), hdue] at h
  split at h
  · cases h
  dsimp only at h
  split at h
  · unfold arrive at h
    rw [if_pos (beq_self_eq_true _)] at h
    obtain ⟨-, rfl⟩ := Prod.mk.inj h
    exact now_reach _ _ _
  · cases h

/-- A sleep that is not given up takes its time. -/
theorem now_of_sleep {d : Duration} (hd : d ≠ 0) (h : w.sleep (.untilStop none) d = (none, w')) :
    w'.now = Duration.wake w.now d := by
  unfold sleep at h
  rw [if_neg hd] at h
  exact now_of_await h

theorem now_of_live {beats : List Beat} (hrestless : ∀ d, Beat.rest d ∉ beats)
    (h : w.live (.untilStop none) beats = (none, w')) : w'.now = w.now := by
  induction beats generalizing w with
  | nil => cases h; rfl
  | cons beat beats ih =>
    have hbeats : ∀ d, Beat.rest d ∉ beats := fun d hmem =>
      hrestless d (List.mem_cons_of_mem _ hmem)
    cases beat with
    | rest d => exact absurd (List.mem_cons_self ..) (hrestless d)
    | giveWay =>
      unfold live at h
      rcases hres : w.await (.untilStop none) (some w.now) with ⟨_ | cut, w₁⟩ <;> rw [hres] at h
      · exact (ih hbeats h).trans (now_of_await hres)
      · cases h
    | stop => exact (ih hbeats h).trans (now_stop w .outside)
    | note r => exact (ih hbeats h : w'.now = (w.say (.record r)).now)

/-- An action that is answered without delay takes no time. -/
theorem now_of_act {a : Action} {x : a.Answer} (hundelayed : (o a w.outside).Undelayed)
    (h : w.step o (.untilStop none) (.act a) = (.ok x, w')) : w'.now = w.now := by
  have hnoted : ((w.noteCall a).withOutside (o a w.outside).start).now = w.now := by
    cases a <;> rfl
  simp only [step, act] at h
  rcases hres : ((w.noteCall a).withOutside (o a w.outside).start).live (.untilStop none)
    (o a w.outside).beats with ⟨_ | cut, w₁⟩ <;> rw [hres] at h <;> dsimp only at h
  · have hlived := (now_of_live hundelayed.restless hres).trans hnoted
    split at h
    · cases h
      exact hlived
    · cases h
  · cases h

end World

/-- As long as the end of a sleep can be counted, it is over when it should be. -/
theorem wake_eq {now d : Duration} (h : now + d ≤ Duration.sleepsEnd) :
    Duration.wake now d = now + d := by
  have hclock : Duration.sleepsEnd < Duration.clockEnd := by decide
  have hbefore : now + d < Duration.clockEnd := Nat.lt_of_le_of_lt h hclock
  unfold Duration.wake Duration.after
  rw [if_pos hbefore, Nat.min_eq_left h]
  exact Nat.max_eq_right (Nat.le_add_right now d)

/-! ## What is seen of the windows -/

/-- The windows of a browser: what each of them shows, which one calls go to, and the states in which
the browser shows just these. -/
structure Panes (σ : Type) where
  handles : List String
  title : String → String
  url : String → String
  focus : σ → String
  Shown : σ → Prop

/-- A call is answered without delay, with this answer, and leaves a state as is said. -/
structure Outside.Prompt (o : Outside σ) (c : Call) (x : σ) (r : c.Answer) (P : σ → Prop) :
    Prop where
  undelayed : (o (.call c) x).Undelayed
  answers : ∀ {r' y}, (o (.call c) x).ending = some (r', y) → r' = .ok r ∧ P y

namespace Panes

variable (p : Panes σ)

/-- The browser shows the windows, and the same one is in use as in another state. -/
def Same (x y : σ) : Prop := p.Shown y ∧ p.focus y = p.focus x

/-- A browser that answers without delay and whose windows do not change while they are looked at. The
one in use is among them. -/
structure Steady (o : Outside σ) : Prop where
  focus_mem : ∀ {x}, p.Shown x → p.focus x ∈ p.handles
  handles : ∀ {x}, p.Shown x → o.Prompt .windowHandles x p.handles (p.Same x)
  current : ∀ {x}, p.Shown x → o.Prompt .currentWindow x (p.focus x) (p.Same x)
  title : ∀ {x}, p.Shown x → o.Prompt .title x (p.title (p.focus x)) (p.Same x)
  url : ∀ {x}, p.Shown x → o.Prompt .currentUrl x (p.url (p.focus x)) (p.Same x)
  switched : ∀ {x h}, p.Shown x → h ∈ p.handles →
    o.Prompt (.switchToWindow h) x () fun y => p.Shown y ∧ p.focus y = h

variable {p}

/-- A window has the title or the address that is wanted. -/
def Suits (p : Panes σ) (q : WindowQuery) (handle : String) : Bool :=
  q.title.any (Text.contains (p.title handle)) || q.url.any (Text.contains (p.url handle))

/-- The window that is wanted: the one with the number, if one is given, and otherwise the first one
with the title or the address. -/
def chosen (p : Panes σ) (q : WindowQuery) : Option String :=
  match q.index with
  | some index => p.handles[index]?
  | none => p.handles.find? (p.Suits q)

end Panes

/-- What an event asks for, as the variables stand: any of a title, an address and a number. -/
structure Event.Seeks (setup : Setup) (event : Event) (vars : Vars) (q : WindowQuery) : Prop where
  title : q.title = (event.selectors.text? "title").map (substitute setup.hijacks vars)
  url : q.url = (event.selectors.text? "url").map (substitute setup.hijacks vars)
  /-- A number that is given can be read. -/
  index : (event.selectors.text? "index").map (fun raw =>
    Text.readUnsigned? 64 (Text.trimmed (substitute setup.hijacks vars raw))) =
      q.index.map some
  given : q.title.isSome = true ∨ q.url.isSome = true ∨ q.index.isSome = true

/-! ## Looks -/

/-- How often the windows have been asked for. -/
def listings (history : List Happening) : Nat :=
  (calls history).count .windowHandles

/-- The looks of a search from one moment to another, each with the time at which it begins. There is a
pause after each look but the last one, which has found this. -/
inductive Looks (setup : Setup) (o : Outside σ) (q : WindowQuery) :
    Moment σ → List Duration → Option String → Moment σ → Prop where
  | last {m m' : Moment σ} {found : Option String} :
      Stretch.Comes o (q.find.play setup) m (.ok found) m' →
      Looks setup o q m [m.world.now] found m'
  | again {m m₁ m₂ m' : Moment σ} {times : List Duration} {found : Option String} :
      Stretch.Comes o (q.find.play setup) m (.ok none) m₁ →
      Stretch.Comes o ((Act.step (.sleep WindowQuery.pause)).play setup) m₁ (.ok ()) m₂ →
      Looks setup o q m₂ times found m' →
      Looks setup o q m (m.world.now :: times) found m'

/-! ## One look -/

/-- No time has passed, nothing has been reported, and the windows have been asked for so often. -/
structure World.Glances (n : Nat) (w w' : World σ) : Prop where
  now_eq : w'.now = w.now
  reports_eq : w'.reports = w.reports
  listings_eq : listings w'.history = listings w.history + n

namespace World

theorem Glances.refl (w : World σ) : w.Glances 0 w := ⟨rfl, rfl, rfl⟩

theorem Glances.trans {n m : Nat} (h : w.Glances n w') (h' : w'.Glances m w'') :
    w.Glances (n + m) w'' where
  now_eq := h'.now_eq.trans h.now_eq
  reports_eq := h'.reports_eq.trans h.reports_eq
  listings_eq := by rw [h'.listings_eq, h.listings_eq, Nat.add_assoc]

/-- What the supervisor and the outside add of themselves reports nothing. -/
theorem Adds.reports_eq {ok : Stopper → Prop} (h : w.Adds (Happening.Ambient ok) w') :
    w'.reports = w.reports := by
  have hshown : w'.history.filterMap shown? = w.history.filterMap shown? :=
    h.keeps (P := fun past => past.filterMap shown? = w.history.filterMap shown?)
      (fun new past hambient hpast => by cases hambient <;> exact hpast) rfl
  rw [World.reports_eq, World.reports_eq, hshown]

/-- A call that is answered without delay. -/
theorem glances_of_step {c : Call} {x : Except BrowserError c.Answer}
    (hundelayed : (o (.call c) w.outside).Undelayed)
    (h : w.step o (.untilStop none) (.act (.call c)) = (.ok x, w')) :
    w.Glances ([c].count .windowHandles) w' := by
  have hcalled := called_of_step h
  refine ⟨now_of_act hundelayed h, hcalled.adds.reports_eq.trans ?_, ?_⟩
  · exact (reports_happen w _).trans (List.append_nil _)
  · rw [listings, listings, hcalled.calls_eq, List.count_append]

end World

/-- What a look for a window comes to: it leaves the windows as they were and takes no time, and the
window that has been found is in use. -/
structure Panes.Glanced (p : Panes σ) (n : Nat) (s : Session) (w : World σ)
    (found : Option String) (s' : Session) (w' : World σ) : Prop where
  session_eq : s' = s
  shown : p.Shown w'.outside
  glances : w.Glances n w'
  focus_eq : ∀ h, found = some h → p.focus w'.outside = h

namespace Act

open Stretch

variable {p : Panes σ} {q : WindowQuery}

theorem passes_prompt {c : Call} {r : c.Answer} {P : σ → Prop} (h : o.Prompt c w.outside r P) :
    Passes o (Passage.act setup (Act.call c)) s w (fun x s' w' => x = r ∧ s' = s ∧ P w'.outside ∧
      w.Glances ([c].count .windowHandles) w') fun _ _ _ => False := by
  refine passes_bind (R := fun x s' w' => x = .ok r ∧ s' = s ∧ P w'.outside ∧
    w.Glances ([c].count .windowHandles) w') (passes_step fun x w' hstep => ?_) ?_
  · obtain ⟨rfl, hP⟩ := h.answers (World.ending_of_act hstep)
    exact ⟨rfl, rfl, hP, World.glances_of_step h.undelayed hstep⟩
  · rintro _ s' w' ⟨rfl, hrest⟩
    exact passes_pure ⟨rfl, hrest⟩

theorem passes_matching (wanted : Option String) {c : Call} {r : c.Answer}
    (hc : [c].count .windowHandles = 0) (read : c.Answer → String) (hshown : p.Shown w.outside)
    (h : o.Prompt c w.outside r (p.Same w.outside)) :
    Passes o (Passage.act setup (WindowQuery.matchesBy wanted c read)) s w
      (fun found s' w' => found = wanted.any (Text.contains (read r)) ∧ s' = s ∧
        p.Same w.outside w'.outside ∧ w.Glances 0 w') fun _ _ _ => False := by
  cases wanted with
  | none => exact passes_pure ⟨rfl, rfl, ⟨hshown, rfl⟩, .refl w⟩
  | some wanted =>
    refine passes_bind (passes_prompt h) ?_
    rintro _ s' w' ⟨rfl, hs, hsame, hglances⟩
    rw [hc] at hglances
    exact passes_pure ⟨rfl, hs, hsame, hglances⟩

/-- Going through windows finds the first one that suits. -/
theorem passes_scanned (hp : p.Steady o) (hshown : p.Shown w.outside) (handles : List String)
    (hopen : ∀ h ∈ handles, h ∈ p.handles) :
    Passes o (Passage.act setup (q.scan handles)) s w (fun found s' w' =>
      found = handles.find? (p.Suits q) ∧ p.Glanced 0 s w found s' w') fun _ _ _ => False := by
  induction handles generalizing s w with
  | nil => exact passes_pure ⟨rfl, rfl, hshown, .refl w, nofun⟩
  | cons handle rest ih =>
    refine passes_bind (passes_prompt (hp.switched hshown (hopen handle (List.mem_cons_self ..)))) ?_
    rintro _ _ w₁ ⟨-, rfl, ⟨hshown₁, hfocus₁⟩, hglances₁⟩
    refine passes_bind (passes_matching (c := .title) q.title rfl id hshown₁ (hp.title hshown₁)) ?_
    rintro titled _ w₂ ⟨htitled, rfl, ⟨hshown₂, hfocus₂⟩, hglances₂⟩
    have hhere : w.Glances 0 w₂ := hglances₁.trans hglances₂
    rw [hfocus₁] at hfocus₂
    rw [hfocus₁, id] at htitled
    split
    · -- the title decides, whatever the address is
      rename_i heq
      have hsuits : p.Suits q handle = true := by
        rw [Panes.Suits, ← htitled, heq, Bool.true_or]
      refine passes_pure ⟨(List.find?_cons_of_pos hsuits).symm, rfl, hshown₂, hhere, ?_⟩
      intro h hfound
      rw [hfocus₂, Option.some.inj hfound]
    · rename_i hnot
      refine passes_bind (passes_matching (c := .currentUrl) q.url rfl id hshown₂ (hp.url hshown₂)) ?_
      rintro addressed _ w₃ ⟨haddressed, rfl, ⟨hshown₃, hfocus₃⟩, hglances₃⟩
      rw [hfocus₂] at hfocus₃
      rw [hfocus₂, id] at haddressed
      have hsuits : p.Suits q handle = addressed := by
        rw [Panes.Suits, ← htitled, Bool.eq_false_iff.2 hnot, Bool.false_or, haddressed]
      split
      · rename_i heq
        rw [heq] at hsuits
        refine passes_pure ⟨(List.find?_cons_of_pos hsuits).symm, rfl, hshown₃,
          hhere.trans hglances₃, ?_⟩
        intro h hfound
        rw [hfocus₃, Option.some.inj hfound]
      · rename_i heq
        refine (ih hshown₃ fun h hmem => hopen h (List.mem_cons_of_mem _ hmem)).mono ?_
          fun _ _ _ h => h
        rintro found s' w' ⟨hfound, hs, hshown', hglances', hfocus'⟩
        refine ⟨?_, hs, hshown', (hhere.trans hglances₃).trans hglances', hfocus'⟩
        rw [List.find?_cons_of_neg (by rw [hsuits]; exact heq)]
        exact hfound

/-- **A look finds the window that is wanted**, if it is there. -/
theorem passes_glance (hp : p.Steady o) (hshown : p.Shown w.outside) :
    Passes o (Passage.act setup q.find) s w (fun found s' w' =>
      found = p.chosen q ∧ p.Glanced 1 s w found s' w') fun _ _ _ => False := by
  refine passes_bind (passes_prompt (hp.handles hshown)) ?_
  rintro _ _ w₁ ⟨rfl, rfl, ⟨hshown₁, hfocus₁⟩, hglances₁⟩
  have hone : w.Glances 1 w₁ := hglances₁
  unfold Panes.chosen
  cases q.index with
  | none =>
    refine (passes_scanned hp hshown₁ p.handles fun _ hmem => hmem).mono ?_ fun _ _ _ h => h
    rintro found s' w' ⟨hfound, hs, hshown', hglances', hfocus'⟩
    exact ⟨hfound, hs, hshown', hone.trans hglances', hfocus'⟩
  | some index =>
    dsimp only
    cases hnth : p.handles[index]? with
    | none => exact passes_pure ⟨rfl, rfl, hshown₁, hone, nofun⟩
    | some handle =>
      refine passes_bind (passes_prompt (hp.switched hshown₁ (List.mem_of_getElem? hnth))) ?_
      rintro _ _ w₂ ⟨-, rfl, ⟨hshown₂, hfocus₂⟩, hglances₂⟩
      refine passes_pure ⟨rfl, rfl, hshown₂, hone.trans hglances₂, ?_⟩
      intro h hfound
      rw [hfocus₂, Option.some.inj hfound]

end Act

/-! ## A whole search -/

/-- The times of looks that are one pause apart. -/
def lookTimes (start : Duration) (pauses : Nat) : List Duration :=
  (List.range (pauses + 1)).map fun k => start + .ofSecs k

theorem lookTimes_zero (start : Duration) : lookTimes start 0 = [start] := by
  simp [lookTimes, Duration.ofSecs]

theorem lookTimes_succ (start : Duration) (pauses : Nat) :
    lookTimes start (pauses + 1) = start :: lookTimes (start + WindowQuery.pause) pauses := by
  have hshift (k : Nat) : start + .ofSecs (k + 1) = start + WindowQuery.pause + .ofSecs k := by
    unfold WindowQuery.pause Duration.ofSecs
    lia
  unfold lookTimes
  rw [List.range_succ_eq_map, List.map_cons, List.map_map]
  refine congrArg₂ List.cons ?_ (List.map_congr_left fun k _ => ?_)
  · rw [Duration.ofSecs, Nat.zero_mul, Nat.add_zero]
  · rw [Function.comp_apply, Nat.succ_eq_add_one, hshift]

/-- While the worker sleeps nothing but time goes on, as far as the sleep is long. -/
theorem World.slept {d : Duration} {x : Unit} (hd : d ≠ 0)
    (hclock : w.now + d ≤ Duration.sleepsEnd)
    (h : w.step o (.untilStop none) (.sleep d) = (.ok x, w')) :
    w'.now = w.now + d ∧ w'.outside = w.outside ∧ w'.reports = w.reports ∧
      listings w'.history = listings w.history := by
  have hadds := adds_of_sleep h
  refine ⟨?_, outside_of_sleep h, hadds.reports_eq, congrArg (List.count Call.windowHandles) hadds.calls_eq⟩
  simp only [step] at h
  rcases hres : w.sleep (.untilStop none) d with ⟨_ | cut, w₁⟩ <;> rw [hres] at h
  · cases h
    rw [now_of_sleep hd hres, wake_eq hclock]
  · cases h

namespace Act

open Stretch

variable {p : Panes σ} {q : WindowQuery}

/-- What an act passes with it comes to. -/
theorem passes_comes {a : Act α} {Q : α → Session → World σ → Prop}
    {E : Mishap → Session → World σ → Prop} (h : Passes o (Passage.act setup a) s w Q E) :
    Passes o (Passage.act setup a) s w
      (fun x s' w' => Q x s' w' ∧ Comes o (a.play setup) ⟨s, w⟩ (.ok x) ⟨s', w'⟩) E := by
  refine (Leads.and h (leads_comes _)).mono fun r s' w' h hgoes => ?_
  cases r with
  | ok x => exact ⟨h.1 hgoes, h.2⟩
  | error e => exact h.1 hgoes

/-- A look, with what it comes to. -/
theorem passes_look (hp : p.Steady o) (hshown : p.Shown w.outside) :
    Passes o (Passage.act setup q.find) s w (fun found s' w' => found = p.chosen q ∧
      p.Glanced 1 s w found s' w' ∧ Comes o (q.find.play setup) ⟨s, w⟩ (.ok found) ⟨s', w'⟩)
      fun _ _ _ => False := by
  refine (passes_comes (passes_glance hp hshown)).mono ?_ fun _ _ _ h => h
  rintro found s' w' ⟨⟨hfound, hglanced⟩, hcomes⟩
  exact ⟨hfound, hglanced, hcomes⟩

/-- A pause between two looks, with what it comes to. -/
theorem passes_pause (hclock : w.now + WindowQuery.pause ≤ Duration.sleepsEnd) :
    Passes o (Passage.act setup (Act.step (.sleep WindowQuery.pause))) s w
      (fun x s' w' => (s' = s ∧ w'.now = w.now + WindowQuery.pause ∧ w'.outside = w.outside ∧
        w'.reports = w.reports ∧ listings w'.history = listings w.history) ∧
        Comes o ((Act.step (.sleep WindowQuery.pause)).play setup) ⟨s, w⟩ (.ok x) ⟨s', w'⟩)
      fun _ _ _ => False :=
  passes_comes (passes_step fun _ _ hslept => ⟨rfl, World.slept (by decide) hclock hslept⟩)

/-- A window that is there is found at the first look. -/
theorem passes_found (hp : p.Steady o) (hshown : p.Shown w.outside) {handle : String}
    (hchosen : p.chosen q = some handle) (deadline : Duration) (pauses : Nat) :
    Passes o (Passage.act setup (q.search deadline pauses)) s w (fun found s' w' =>
      found = some handle ∧ p.Glanced 1 s w found s' w' ∧
        Looks setup o q ⟨s, w⟩ [w.now] found ⟨s', w'⟩) fun _ _ _ => False := by
  have hlook : Passes o (Passage.act setup q.find) s w (fun found s' w' =>
      found = some handle ∧ p.Glanced 1 s w found s' w' ∧
        Looks setup o q ⟨s, w⟩ [w.now] found ⟨s', w'⟩) fun _ _ _ => False := by
    refine (passes_look hp hshown).mono ?_ fun _ _ _ h => h
    rintro found s' w' ⟨hfound, hglanced, hcomes⟩
    exact ⟨hfound.trans hchosen, hglanced, .last hcomes⟩
  cases pauses with
  | zero => exact hlook
  | succ pauses =>
    refine passes_bind hlook ?_
    rintro _ s' w' ⟨rfl, hlooked⟩
    exact passes_pure ⟨rfl, hlooked⟩

/-- A window that is not there is looked for until the deadline, one pause after the other. -/
theorem passes_missed (hp : p.Steady o) (hchosen : p.chosen q = none) {deadline : Duration}
    {rest pauses : Nat} (hrest : rest ≤ pauses) (hshown : p.Shown w.outside)
    (hdue : deadline = w.now + .ofSecs rest) (hclock : deadline ≤ Duration.sleepsEnd) :
    Passes o (Passage.act setup (q.search deadline pauses)) s w (fun found s' w' =>
      found = none ∧ s' = s ∧ p.Shown w'.outside ∧ w'.now = deadline ∧
        w'.reports = w.reports ∧ listings w'.history = listings w.history + (rest + 1) ∧
        Looks setup o q ⟨s, w⟩ (lookTimes w.now rest) none ⟨s', w'⟩) fun _ _ _ => False := by
  have hzero : Duration.ofSecs 0 = 0 := Nat.zero_mul _
  induction pauses generalizing rest s w with
  | zero =>
    obtain rfl : rest = 0 := Nat.le_zero.1 hrest
    rw [hzero, Nat.add_zero] at hdue
    refine (passes_look hp hshown).mono ?_ fun _ _ _ h => h
    rintro found s' w' ⟨hfound, hglanced, hcomes⟩
    obtain rfl := hfound.trans hchosen
    refine ⟨rfl, hglanced.session_eq, hglanced.shown, hglanced.glances.now_eq.trans hdue.symm,
      hglanced.glances.reports_eq, hglanced.glances.listings_eq, ?_⟩
    rw [lookTimes_zero]
    exact .last hcomes
  | succ pauses ih =>
    refine passes_bind (passes_look hp hshown) ?_
    rintro found s₁ w₁ ⟨hfound, ⟨rfl, hshown₁, hglances, -⟩, hcomes⟩
    obtain rfl := hfound.trans hchosen
    refine passes_then (passes_now ?_)
    split
    · -- the deadline has come, so there was no more pause to be made
      rename_i hlate
      have hover : rest = 0 := by
        rw [hglances.now_eq, hdue] at hlate
        unfold Duration.ofSecs at hlate
        lia
      subst hover
      rw [hzero, Nat.add_zero] at hdue
      refine passes_pure ⟨rfl, rfl, hshown₁, hglances.now_eq.trans hdue.symm,
        hglances.reports_eq, hglances.listings_eq, ?_⟩
      rw [lookTimes_zero]
      exact .last hcomes
    · rename_i hearly
      rw [hglances.now_eq] at hearly
      obtain ⟨rest, rfl⟩ : ∃ k, rest = k + 1 := by
        refine Nat.exists_eq_add_one.2 (Nat.pos_of_ne_zero fun hnone => hearly ?_)
        rw [hdue, hnone, hzero]
        exact Nat.le_refl _
      -- one of the pauses that are left is made, and the same deadline is one pause nearer
      have hstep : Duration.ofSecs (rest + 1) = WindowQuery.pause + .ofSecs rest := by
        unfold WindowQuery.pause Duration.ofSecs
        lia
      rw [hstep, ← Nat.add_assoc] at hdue
      have hcounted : w₁.now + WindowQuery.pause ≤ Duration.sleepsEnd := by
        rw [hglances.now_eq]
        exact Nat.le_trans (Nat.le_add_right _ _) (hdue ▸ hclock)
      refine passes_bind (passes_pause hcounted) ?_
      rintro _ _ w₂ ⟨⟨rfl, hnow, houtside, hreports, hlistings⟩, hslept⟩
      rw [hglances.now_eq] at hnow
      refine (ih (Nat.le_of_succ_le_succ hrest) (houtside ▸ hshown₁) (hnow ▸ hdue)).mono ?_
        fun _ _ _ h => h
      rintro _ s' w' ⟨rfl, rfl, hshown', hnow', hreports', hlistings', hlooks⟩
      refine ⟨rfl, rfl, hshown', hnow', ?_, ?_, ?_⟩
      · rw [hreports', hreports, hglances.reports_eq]
      · rw [hlistings', hlistings, hglances.listings_eq]
        lia
      · rw [lookTimes_succ, ← hnow]
        exact .again hcomes hslept hlooks

/-- What an event asks for is what it looks for. -/
theorem passes_ofEvent (hseeks : event.Seeks setup s.vars q) :
    Passes o (Passage.act setup (WindowQuery.ofEvent setup event)) s w
      (fun q' s' w' => q' = q ∧ s' = s ∧ w' = w) fun _ _ _ => False := by
  obtain ⟨htitle, hurl, hindex, hgiven⟩ := hseeks
  obtain ⟨title, url, index⟩ := q
  dsimp only at htitle hurl hindex hgiven
  refine passes_then (passes_fill? (passes_then (passes_fill? (passes_then (passes_fill? ?_)))))
  rw [← htitle, ← hurl]
  cases hraw : event.selectors.text? "index" with
  | some raw =>
    rw [hraw, Option.map_some] at hindex
    obtain ⟨index, rfl⟩ : ∃ i, index = some i := by
      cases index with
      | none => cases hindex
      | some index => exact ⟨index, rfl⟩
    dsimp only [Option.map_some]
    rw [Option.some.inj hindex]
    exact passes_pure ⟨rfl, rfl, rfl⟩
  | none =>
    rw [hraw] at hindex
    obtain rfl : index = none := by
      cases index with
      | none => rfl
      | some index => cases hindex
    dsimp only [Option.map_none]
    split
    · rename_i hnothing
      obtain ⟨hnotitle, hnourl⟩ := Bool.and_eq_true_iff.1 hnothing
      rw [Option.isNone_iff_eq_none] at hnotitle hnourl
      subst hnotitle hnourl
      rcases hgiven with h | h | h <;> cases h
    · exact passes_pure ⟨rfl, rfl, rfl⟩

end Act

/-! ## Events -/

namespace World

theorem glances_extend (w : World σ) (d : Duration) : w.Glances 0 (w.extend d) := by
  refine ⟨rfl, ?_, congrArg (List.count Call.windowHandles) (calls_notice _)⟩
  rw [World.reports_eq, World.reports_eq]
  rfl

theorem listings_say (w : World σ) (r : Remark) :
    listings (w.say r).history = listings w.history :=
  congrArg (List.count Call.windowHandles) (calls_notice _)

end World

namespace Panes

variable (p : Panes σ) (setup : Setup) (o : Outside σ) (q : WindowQuery)

/-- An event has found its window at its only look, without delay; the window is in use now, and the one
from before is known. -/
structure Attached (s : Session) (w : World σ) (handle : String) (r : Except Mishap Opened)
    (s' : Session) (w' : World σ) : Prop where
  result_eq : r = .ok { restore := .window (p.focus w.outside) }
  session_eq : s' = { s with window := some handle }
  focus_eq : p.focus w'.outside = handle
  now_eq : w'.now = w.now
  looks : ∃ first last, w.Later first.world ∧ last.world.Later w' ∧
    Looks setup o q first [w.now] (some handle) last
  listings_eq : listings w'.history = listings w.history + 1
  reports_eq : w'.reports = w.reports ++ [.log ("Attached to window '" ++ handle ++ "'.")]

/-- An event has looked for its window in vain, for so many seconds, and has gone back. -/
structure Missed (secs : Nat) (s : Session) (w : World σ) (r : Except Mishap Opened) (s' : Session)
    (w' : World σ) : Prop where
  result_eq : r = .error .abort
  session_eq : s' = s
  focus_eq : p.focus w'.outside = p.focus w.outside
  now_eq : w'.now = w.now + .ofSecs secs
  looks : ∃ first last, w.Later first.world ∧ last.world.Later w' ∧
    Looks setup o q first (lookTimes w.now secs) none last
  listings_eq : listings w'.history = listings w.history + (secs + 1)
  reports_eq : w'.reports = w.reports ++
    [.error ("Failed to find window matching " ++ q.words ++ ".")]

variable {p setup o q} {secs : Nat} {handle : String} {r : Except Mishap Opened}

/-- What comes before in no time, and leaves the window in use, may be counted in. -/
theorem Attached.after (h : p.Attached setup o q s w' handle r s' w'') (hlater : w.Later w')
    (hfocus : p.focus w'.outside = p.focus w.outside) (hglances : w.Glances 0 w') :
    p.Attached setup o q s w handle r s' w'' where
  result_eq := hfocus ▸ h.result_eq
  session_eq := h.session_eq
  focus_eq := h.focus_eq
  now_eq := h.now_eq.trans hglances.now_eq
  looks := by
    obtain ⟨first, last, hfirst, hlast, hlooks⟩ := h.looks
    exact ⟨first, last, hlater.trans hfirst, hlast, hglances.now_eq ▸ hlooks⟩
  listings_eq := by rw [h.listings_eq, hglances.listings_eq, Nat.add_zero]
  reports_eq := by rw [h.reports_eq, hglances.reports_eq]

theorem Missed.after (h : p.Missed setup o q secs s w' r s' w'') (hlater : w.Later w')
    (hfocus : p.focus w'.outside = p.focus w.outside) (hglances : w.Glances 0 w') :
    p.Missed setup o q secs s w r s' w'' where
  result_eq := h.result_eq
  session_eq := h.session_eq
  focus_eq := h.focus_eq.trans hfocus
  now_eq := hglances.now_eq ▸ h.now_eq
  looks := by
    obtain ⟨first, last, hfirst, hlast, hlooks⟩ := h.looks
    exact ⟨first, last, hlater.trans hfirst, hlast, hglances.now_eq ▸ hlooks⟩
  listings_eq := by rw [h.listings_eq, hglances.listings_eq, Nat.add_zero]
  reports_eq := by rw [h.reports_eq, hglances.reports_eq]

end Panes

namespace Stretch

variable {p : Panes σ} {q : WindowQuery} {secs : Nat}

/-- **A search finds the window that is wanted at once, or goes back when its time is over.** -/
theorem passes_seeking (hp : p.Steady o) (hpatience : setup.attachPatience = .ofSecs secs)
    (hclock : p.chosen q = none → w.now + .ofSecs secs ≤ Duration.sleepsEnd)
    (hshown : p.Shown w.outside) :
    Passes o (Passage.act setup (Act.attach setup q (p.focus w.outside))) s w
      (fun _ s' w' => ∃ handle, p.chosen q = some handle ∧ p.Attached setup o q s w handle
        (.ok { restore := .window (p.focus w.outside) }) s' w')
      fun mishap s' w' => p.chosen q = none ∧ p.Missed setup o q secs s w (.error mishap) s' w' := by
  refine Act.passes_then (Act.passes_now ?_)
  rw [hpatience, pauses_ofSecs]
  cases hchosen : p.chosen q with
  | some handle =>
    refine Act.passes_bind ((Act.passes_found hp hshown hchosen _ _).mono (fun _ _ _ h => h)
      fun _ _ _ h => h.elim) ?_
    rintro _ s₁ w₁ ⟨rfl, ⟨rfl, -, hglances, hfocus⟩, hlooks⟩
    refine Act.passes_then (Act.passes_say (Act.passes_edit ⟨handle, rfl, ?_⟩))
    exact {
      result_eq := rfl
      session_eq := rfl
      focus_eq := hfocus handle rfl
      now_eq := hglances.now_eq
      looks := ⟨⟨s₁, w⟩, ⟨s₁, w₁⟩, .refl w, World.later_tell _ _, hlooks⟩
      listings_eq := (World.listings_say w₁ _).trans hglances.listings_eq
      reports_eq := by rw [World.reports_say, hglances.reports_eq]; rfl }
  | none =>
    replace hclock := hclock hchosen
    have hbefore : w.now + .ofSecs secs < Duration.clockEnd :=
      Nat.lt_of_le_of_lt hclock (by decide : Duration.sleepsEnd < Duration.clockEnd)
    have hdeadline : Duration.after w.now (.ofSecs secs) = w.now + .ofSecs secs := if_pos hbefore
    rw [hdeadline]
    refine Act.passes_bind ((Act.passes_missed hp hchosen (Nat.le_refl secs) hshown rfl hclock).mono
      (fun _ _ _ h => h) fun _ _ _ h => h.elim) ?_
    rintro _ _ w₁ ⟨rfl, rfl, hshown₁, hnow, hreports, hlistings, hlooks⟩
    -- the window from before is still there, so the browser can go back to it
    refine Act.passes_bind ((Act.passes_comes (Act.passes_prompt (hp.switched hshown₁
      (hp.focus_mem hshown)))).mono (fun _ _ _ h => h) fun _ _ _ h => h.elim) ?_
    rintro _ _ w₂ ⟨⟨-, rfl, ⟨-, hback⟩, hglances⟩, hcomes⟩
    refine Act.passes_then (Act.passes_say (Act.passes_fail ⟨rfl, ?_⟩))
    exact {
      result_eq := rfl
      session_eq := rfl
      focus_eq := hback
      now_eq := hglances.now_eq.trans hnow
      looks := ⟨_, _, .refl w, hcomes.later.trans (World.later_tell _ _), hlooks⟩
      listings_eq := by
        rw [World.listings_say, hglances.listings_eq, hlistings]
        rfl
      reports_eq := by rw [World.reports_say, hglances.reports_eq, hreports]; rfl }

end Stretch

open Stretch

/-- **An event that attaches to a window ends with the right one, and in time.** Before a browser whose
windows stay as they are and which answers without delay, it comes to an end. Unless the run has been
stopped by then, it has found the window that is wanted at its first look, without delay; or there is
none, and it has looked for it once more after every second of its patience, has gone back to the
window from before and has told one error. In this case the end of its patience is to be a time that
sleeps can reach. -/
theorem attaches_of_steady {p : Panes σ} {q : WindowQuery} {secs : Nat} (hp : p.Steady o)
    (hkind : event.kind = .command .attach) (hseeks : event.Seeks setup s.vars q)
    (hpatience : setup.attachPatience = .ofSecs secs)
    (hclock : p.chosen q = none → w.now + .ofSecs secs ≤ Duration.sleepsEnd)
    (hshown : p.Shown w.outside) (parent : Option Element) :
    Lands o (Passage.carryOut setup event parent).run s w fun r s' w' => w'.isStopped = false →
      match p.chosen q with
      | some handle => p.Attached setup o q s w handle r s' w'
      | none => p.Missed setup o q secs s w r s' w' := by
  have hasks : Passes o (Passage.act setup (do
      let q ← WindowQuery.ofEvent setup event
      let previous : String ← Act.call .currentWindow
      return (q, previous))) s w (fun found s' w' => found = (q, p.focus w.outside) ∧ s' = s ∧
        p.Same w.outside w'.outside ∧ w.Glances 0 w') fun _ _ _ => False := by
    refine Act.passes_bind (Act.passes_ofEvent hseeks) ?_
    rintro _ _ _ ⟨rfl, rfl, rfl⟩
    refine Act.passes_bind (Act.passes_prompt (hp.current hshown)) ?_
    rintro _ _ w₁ ⟨rfl, rfl, hsame, hglances⟩
    exact Act.passes_pure ⟨rfl, rfl, hsame, hglances⟩
  have hpasses : Passes o (Passage.carryOut setup event parent) s w
      (fun opened s' w' => ∃ handle, p.chosen q = some handle ∧
        p.Attached setup o q s w handle (.ok opened) s' w')
      fun mishap s' w' => p.chosen q = none ∧ p.Missed setup o q secs s w (.error mishap) s' w' := by
    unfold Passage.carryOut
    rw [hkind]
    refine Passes.bind ((Act.passes_comes hasks).mono (fun _ _ _ h => h) fun _ _ _ h => h.elim) ?_
    rintro _ s₁ w₁ ⟨⟨rfl, rfl, ⟨hshown₁, hfocus₁⟩, hglances₁⟩, hcomes⟩
    have hlater : w.Later (w₁.extend setup.attachPatience) :=
      hcomes.later.trans ⟨List.suffix_cons _ _, id, Nat.le_refl _⟩
    have hglances := hglances₁.trans (World.glances_extend w₁ setup.attachPatience)
    have hnow : (w₁.extend setup.attachPatience).now = w.now := hglances.now_eq
    rw [← hnow] at hclock
    refine Passes.bind (R := fun _ s' w' => s₁ = s' ∧ w' = w₁.extend setup.attachPatience)
      (passes_extend ⟨rfl, rfl⟩) ?_
    rintro _ _ _ ⟨rfl, rfl⟩
    have hseeking := passes_seeking (s := s₁) (q := q) hp hpatience hclock hshown₁
    have hfrom : p.focus (w₁.extend setup.attachPatience).outside = p.focus w.outside := hfocus₁
    rw [hfrom] at hseeking
    refine Passes.bind (hseeking.mono (fun _ _ _ h => h) ?_) ?_
    · rintro mishap s' w' ⟨hchosen, hmissed⟩
      exact ⟨hchosen, hmissed.after hlater hfrom hglances⟩
    · rintro _ s' w' ⟨handle, hchosen, hattached⟩
      exact passes_pure fun _ => ⟨handle, hchosen, hattached.after hlater hfrom hglances⟩
  refine (Passage.finishes_carryOut event parent).lands (Leads.mono hpasses fun r s' w' h hgoes => ?_)
  cases r with
  | ok opened =>
    obtain ⟨handle, hchosen, hattached⟩ := h hgoes
    rw [hchosen]
    exact hattached
  | error mishap =>
    obtain ⟨hchosen, hmissed⟩ := h hgoes
    rw [hchosen]
    exact hmissed

/-- Two windows with nothing in them. -/
def Tabs.panes : Panes Tabs where
  handles := ["main", "other"]
  title _ := "title"
  url _ := "about:blank"
  focus := Tabs.focus
  Shown t := t.windows = ["main", "other"] ∧ t.focus ∈ t.windows

theorem steady_tabs : Tabs.panes.Steady .tabs where
  focus_mem h := by
    obtain ⟨hwindows, hfocus⟩ := h
    rwa [hwindows] at hfocus
  handles {x} h := ⟨⟨nofun, rfl⟩, fun heq => by cases heq; exact ⟨congrArg _ h.1, h, rfl⟩⟩
  current {x} h := ⟨⟨nofun, rfl⟩, fun heq => by cases heq; exact ⟨if_pos h.2, h, rfl⟩⟩
  title {x} h := ⟨⟨nofun, rfl⟩, fun heq => by cases heq; exact ⟨if_pos h.2, h, rfl⟩⟩
  url {x} h := ⟨⟨nofun, rfl⟩, fun heq => by cases heq; exact ⟨if_pos h.2, h, rfl⟩⟩
  switched {x handle} h hmem := by
    have hopen : handle ∈ x.windows := h.1 ▸ hmem
    have hconduct : Outside.tabs (.call (.switchToWindow handle)) x =
        .answer { x with focus := handle } (.ok ()) := if_pos hopen
    refine ⟨?_, fun heq => ?_⟩
    · rw [hconduct]
      exact ⟨nofun, rfl⟩
    · rw [hconduct] at heq
      cases heq
      exact ⟨rfl, ⟨h.1, hopen⟩, rfl⟩

/-- An event that attaches to a window with the given title or address. -/
def attaching (title url : String) : Event :=
  { kind := .command .attach, name := "attach",
    selectors := ⟨[("title", .text title), ("url", .text url)]⟩ }

/-- From the second of two windows a search comes to the first one, since it has the address; a search
for neither title nor address ends after three seconds in the window where it began. -/
theorem attaches_of_steady_tabs :
    let setup := { Setup.small with attachPatience := .ofSecs 3 }
    let s := setup.session ⟨2020, 1, 1, 0, 0, 0⟩
    let w : World Tabs := .start setup ⟨2020, 1, 1, 0, 0, 0⟩ none ⟨["main", "other"], "other", []⟩
    Tabs.panes.Steady .tabs ∧ w.now + .ofSecs 3 ≤ Duration.sleepsEnd ∧ Tabs.panes.Shown w.outside ∧
    (attaching "none" "blank").Seeks setup s.vars ⟨some "none", some "blank", none⟩ ∧
    (attaching "none" "nowhere").Seeks setup s.vars ⟨some "none", some "nowhere", none⟩ ∧
    (∃ r s' w', World.run .tabs ((Passage.carryOut setup (attaching "none" "blank") none).run s) w =
        some ((r, s'), w') ∧ w'.isStopped = false ∧ Tabs.panes.Attached setup .tabs
          ⟨some "none", some "blank", none⟩ s w "main" r s' w') ∧
    ∃ r s' w', World.run .tabs ((Passage.carryOut setup (attaching "none" "nowhere") none).run s) w =
        some ((r, s'), w') ∧ w'.isStopped = false ∧ Tabs.panes.Missed setup .tabs
          ⟨some "none", some "nowhere", none⟩ 3 s w r s' w' := by
  intro setup s w
  have hclock : w.now + .ofSecs 3 ≤ Duration.sleepsEnd := by decide +kernel
  have hshown : Tabs.panes.Shown w.outside := ⟨rfl, by decide +kernel⟩
  have hfound : (attaching "none" "blank").Seeks setup s.vars ⟨some "none", some "blank", none⟩ :=
    ⟨by decide +kernel, by decide +kernel, rfl, .inl rfl⟩
  have hvain : (attaching "none" "nowhere").Seeks setup s.vars
      ⟨some "none", some "nowhere", none⟩ :=
    ⟨by decide +kernel, by decide +kernel, rfl, .inl rfl⟩
  have hgoes (title url : String) (hstop : (World.run .tabs
      ((Passage.carryOut setup (attaching title url) none).run s) w).map
        (fun x => x.2.isStopped) = some false) :
      ∀ {r s' w'}, World.run .tabs ((Passage.carryOut setup (attaching title url) none).run s) w =
        some ((r, s'), w') → w'.isStopped = false := by
    intro r s' w' hrun
    rw [hrun] at hstop
    exact Option.some.inj hstop
  refine ⟨steady_tabs, hclock, hshown, hfound, hvain, ?_, ?_⟩
  · obtain ⟨r, s', w', hrun, h⟩ :=
      attaches_of_steady steady_tabs rfl hfound rfl (fun _ => hclock) hshown none
    have hstop := hgoes "none" "blank" (by decide +kernel) hrun
    exact ⟨r, s', w', hrun, hstop, h hstop⟩
  · obtain ⟨r, s', w', hrun, h⟩ :=
      attaches_of_steady steady_tabs rfl hvain rfl (fun _ => hclock) hshown none
    have hstop := hgoes "none" "nowhere" (by decide +kernel) hrun
    exact ⟨r, s', w', hrun, hstop, h hstop⟩

end PageScript
