import PageScript.Proofs.ContextKept

/-!
# The window in use

A run remembers which window it takes to be in use, and the browser has one that its calls go to. An
event that looks for a window makes the browser go through many of them, one that closes a window
leaves the browser without one for a moment, and what restores the window may find that it is gone;
still, wherever an event starts or is over, a window that the run remembers is open and is the one
that the browser's calls go to.

Unless a window is closed within it, an event also leaves the browser in the window in which it has
found it. If it has attached to another one, the window from before is still there at its end, since
windows go away only by being closed; if it has looked for one in vain, it has gone back itself.

The browser is known by what it answers: a call that is about a window fails only if the window is not
open, and only the calls for that purpose change the window in use.
-/

namespace PageScript

/-- What can be seen of the windows in a state of the outside. -/
structure View (σ : Type) where
  windows : σ → List String
  /-- The window that calls go to. -/
  focus : σ → String

variable {σ α : Type} {o : Outside σ} {setup : Setup} {v : View σ} {s s' : Session}
  {w w' : World σ} {m m' : Moment σ} {event : Event}

namespace View

/-- The window in use is the same one, and none is gone. -/
structure Unmoved (v : View σ) (x y : σ) : Prop where
  focus_eq : v.focus y = v.focus x
  open_of_open : ∀ {h}, h ∈ v.windows x → h ∈ v.windows y

/-- The window that the run takes to be in use is open, and calls go to it. -/
def InFocus (v : View σ) (m : Moment σ) : Prop :=
  ∀ h, m.session.window = some h →
    h ∈ v.windows m.world.outside ∧ v.focus m.world.outside = h

theorem Unmoved.refl (x : σ) : v.Unmoved x x := ⟨rfl, id⟩

theorem Unmoved.trans {x y z : σ} (h : v.Unmoved x y) (h' : v.Unmoved y z) : v.Unmoved x z :=
  ⟨h'.focus_eq.trans h.focus_eq, h'.open_of_open ∘ h.open_of_open⟩

theorem InFocus.unmoved (h : v.InFocus m) (hwindow : m'.session.window = m.session.window)
    (hunmoved : v.Unmoved m.world.outside m'.world.outside) : v.InFocus m' := by
  intro handle heq
  obtain ⟨hopen, hfocus⟩ := h handle (hwindow.symm.trans heq)
  exact ⟨hunmoved.open_of_open hopen, hunmoved.focus_eq.trans hfocus⟩

end View

/-- A browser whose windows are as they are seen: a call about a window fails only if this is not
open, and but for the calls that are for changing it the window in use stays and no window goes. -/
structure Windowed (o : Outside σ) (v : View σ) : Prop where
  handles : ∀ {x r y}, (o (.call .windowHandles) x).ending = some (r, y) → r = .ok (v.windows y)
  current : ∀ {x r y}, (o (.call .currentWindow) x).ending = some (r, y) →
    (v.focus x ∈ v.windows x → r = .ok (v.focus x)) ∧
      ∀ h, r = .ok h → h = v.focus x ∧ h ∈ v.windows x
  title : ∀ {x e y}, (o (.call .title) x).ending = some (.error e, y) →
    v.focus x ∉ v.windows x
  currentUrl : ∀ {x e y}, (o (.call .currentUrl) x).ending = some (.error e, y) →
    v.focus x ∉ v.windows x
  switched : ∀ {h x y}, (o (.call (.switchToWindow h)) x).ending = some (.ok (), y) →
    v.focus y = h ∧ h ∈ v.windows y ∧ ∀ {h'}, h' ∈ v.windows x → h' ∈ v.windows y
  notSwitched : ∀ {h x e y}, (o (.call (.switchToWindow h)) x).ending = some (.error e, y) →
    h ∉ v.windows x ∧ v.Unmoved x y
  notClosed : ∀ {x e y}, (o (.call .close) x).ending = some (.error e, y) → v.Unmoved x y
  unmoved : ∀ {a x r y}, a.shift? ≠ some .window → (o a x).ending = some (r, y) → v.Unmoved x y

theorem Windowed.keeps (h : Windowed o v) : o.Keeps .window v.Unmoved where
  refl := .refl
  trans := .trans
  answer := h.unmoved

/-- A call that does not change the window in use. -/
theorem Windowed.called (h : Windowed o v) {c : Call} {x : Except BrowserError c.Answer}
    (hc : c.shift? ≠ some .window) (hcalled : w.Called o c x w') :
    v.Unmoved w.outside w'.outside :=
  h.unmoved (a := .call c) hc hcalled.ending

/-- How many windows have been closed, or were to be closed. -/
def closings (history : List Happening) : Nat :=
  (calls history).count .close

theorem closings_le {past history : List Happening} (h : past <:+ history) :
    closings past ≤ closings history := by
  obtain ⟨later, rfl⟩ := h
  unfold closings calls
  rw [List.reverse_append, List.filterMap_append, List.count_append]
  exact Nat.le_add_right _ _

namespace View

/-- From one point of a run to a later one a window that is in focus is left so or goes for another
one in focus, and the window in use stays unless one is closed. -/
structure Retains (v : View σ) (m m' : Moment σ) : Prop where
  later : m.world.Later m'.world
  inFocus : m'.world.Clear .window → v.InFocus m → v.InFocus m'
  unmoved : m'.world.Clear .window → closings m'.world.history = closings m.world.history →
    v.Unmoved m.world.outside m'.world.outside

/-- If no window is closed between two points, none is closed in either part. -/
theorem closings_eq {w₁ : World σ} (h : w.Later w₁) (h' : w₁.Later w')
    (heq : closings w'.history = closings w.history) :
    closings w₁.history = closings w.history ∧ closings w'.history = closings w₁.history := by
  have hle := closings_le h.history
  have hle' := closings_le h'.history
  omega

namespace Retains

theorem trans {m₁ : Moment σ} (h : v.Retains m m₁) (h' : v.Retains m₁ m') : v.Retains m m' where
  later := h.later.trans h'.later
  inFocus hclear hfocus := h'.inFocus hclear (h.inFocus (h'.later.clear hclear) hfocus)
  unmoved hclear heq := by
    obtain ⟨heq₁, heq₂⟩ := closings_eq h.later h'.later heq
    exact (h.unmoved (h'.later.clear hclear) heq₁).trans (h'.unmoved hclear heq₂)

theorem of_outside_eq (hlater : m.world.Later m'.world)
    (hwindow : m'.session.window = m.session.window)
    (houtside : m'.world.outside = m.world.outside) : v.Retains m m' := by
  have hunmoved : v.Unmoved m.world.outside m'.world.outside := by
    rw [houtside]
    exact .refl _
  exact ⟨hlater, fun _ h => h.unmoved hwindow hunmoved, fun _ _ => hunmoved⟩

theorem refl (m : Moment σ) : v.Retains m m :=
  of_outside_eq (.refl _) rfl rfl

theorem of_preserved (h : Stretch.Preserved .window v.Unmoved s w s' w') :
    v.Retains ⟨s, w⟩ ⟨s', w'⟩ where
  later := h.later
  inFocus hclear hfocus := hfocus.unmoved (h.window_eq rfl) (h.keeps hclear)
  unmoved hclear _ := h.keeps hclear

/-- Of a run that is not clear there is nothing to show. -/
theorem of_clear (hlater : m.world.Later m'.world)
    (h : m'.world.Clear .window → v.Retains m m') : v.Retains m m' :=
  ⟨hlater, fun hclear => (h hclear).inFocus hclear, fun hclear => (h hclear).unmoved hclear⟩

end Retains
end View

/-! ## Looking for a window -/

namespace Act

open Stretch

/-- What looking for a window comes to: no window is gone, and the one that is found is in use. -/
structure Finds (v : View σ) (s : Session) (w : World σ) (found : Option String) (s' : Session)
    (w' : World σ) : Prop where
  session_eq : s' = s
  open_of_open : ∀ {h}, h ∈ v.windows w.outside → h ∈ v.windows w'.outside
  found : ∀ h, found = some h → h ∈ v.windows w'.outside ∧ v.focus w'.outside = h

theorem Finds.of_open {w₁ : World σ} {found : Option String} (h : Finds v s w₁ found s' w')
    (hopen : ∀ {h}, h ∈ v.windows w.outside → h ∈ v.windows w₁.outside) :
    Finds v s w found s' w' :=
  ⟨h.session_eq, fun hmem => h.open_of_open (hopen hmem), h.found⟩

variable {q : WindowQuery}

/-- The window in use can be asked for its title or its address. -/
theorem passes_matchesBy (hwindowed : Windowed o v) (wanted : Option String) {c : Call}
    (hc : c.shift? = none) (read : c.Answer → String)
    (hfails : ∀ {x e y}, (o (.call c) x).ending = some (.error e, y) →
      v.focus x ∉ v.windows x) (hopen : v.focus w.outside ∈ v.windows w.outside) :
    Passes o (Passage.act setup (WindowQuery.matchesBy wanted c read)) s w
      (fun _ s' w' => s' = s ∧ v.Unmoved w.outside w'.outside) fun _ _ _ => False := by
  cases wanted with
  | none => exact passes_pure ⟨rfl, .refl _⟩
  | some wanted =>
    refine passes_then (passes_call (fun _ w' hcalled => ?_) fun e w' hcalled => ?_)
    · refine passes_pure ⟨rfl, hwindowed.called (fun heq => ?_) hcalled⟩
      rw [hc] at heq
      cases heq
    · exact hfails hcalled.ending hopen

theorem passes_scan (hwindowed : Windowed o v) (handles : List String)
    (hopen : ∀ h ∈ handles, h ∈ v.windows w.outside) :
    Passes o (Passage.act setup (q.scan handles)) s w (Finds v s w) fun _ _ _ => False := by
  induction handles generalizing s w with
  | nil => exact passes_pure ⟨rfl, id, fun _ heq => by cases heq⟩
  | cons handle rest ih =>
    refine passes_then (passes_call (fun _ w₁ hcalled => ?_) fun e w₁ hcalled => ?_)
    · obtain ⟨hfocus, hhere, hkeeps⟩ := hwindowed.switched hcalled.ending
      have hin : v.focus w₁.outside ∈ v.windows w₁.outside := by rwa [hfocus]
      have hfound {w' : World σ} (h : v.Unmoved w₁.outside w'.outside) :
          Finds v s w (some handle) s w' := by
        refine ⟨rfl, fun hmem => h.open_of_open (hkeeps hmem), fun _ heq => ?_⟩
        cases heq
        exact ⟨h.open_of_open hhere, h.focus_eq.trans hfocus⟩
      refine passes_bind (passes_matchesBy (c := .title) hwindowed q.title rfl id hwindowed.title hin) ?_
      rintro found _ w₂ ⟨rfl, h₂⟩
      split
      · exact passes_pure (hfound h₂)
      · refine passes_bind (passes_matchesBy (c := .currentUrl) hwindowed q.url rfl id
          hwindowed.currentUrl ?_) ?_
        · rw [h₂.focus_eq]
          exact h₂.open_of_open hin
        rintro found _ w₃ ⟨rfl, h₃⟩
        have h := h₂.trans h₃
        split
        · exact passes_pure (hfound h)
        · refine (ih fun h' hmem => ?_).mono (fun _ _ _ hfinds => ?_) fun _ _ _ h' => h'
          · exact h.open_of_open (hkeeps (hopen h' (.tail _ hmem)))
          · exact hfinds.of_open fun hmem => h.open_of_open (hkeeps hmem)
    · exact (hwindowed.notSwitched hcalled.ending).1 (hopen handle (.head _))

theorem passes_find (hwindowed : Windowed o v) :
    Passes o (Passage.act setup q.find) s w (Finds v s w) fun _ _ _ => False := by
  refine passes_then (passes_call (fun handles w₁ hcalled => ?_) fun e w₁ hcalled => ?_)
  · have hunmoved := hwindowed.called (fun heq => by cases heq) hcalled
    obtain rfl : handles = v.windows w₁.outside := Except.ok.inj (hwindowed.handles hcalled.ending)
    split
    · exact (passes_scan hwindowed _ fun _ hmem => hmem).mono
        (fun _ _ _ h => h.of_open hunmoved.open_of_open) fun _ _ _ h => h
    · split
      · exact passes_pure ⟨rfl, hunmoved.open_of_open, fun _ heq => by cases heq⟩
      · rename_i handle heq
        refine passes_then (passes_call (fun _ w₂ hcalled₂ => ?_) fun e w₂ hcalled₂ => ?_)
        · obtain ⟨hfocus, hhere, hkeeps⟩ := hwindowed.switched hcalled₂.ending
          refine passes_pure ⟨rfl, fun hmem => hkeeps (hunmoved.open_of_open hmem), ?_⟩
          rintro _ ⟨⟩
          exact ⟨hhere, hfocus⟩
        · exact (hwindowed.notSwitched hcalled₂.ending).1 (List.mem_of_getElem? heq)
  · cases hwindowed.handles hcalled.ending

theorem passes_search (hwindowed : Windowed o v) (deadline : Duration) (pauses : Nat) :
    Passes o (Passage.act setup (q.search deadline pauses)) s w (Finds v s w)
      fun _ _ _ => False := by
  induction pauses generalizing s w with
  | zero => exact passes_find hwindowed
  | succ pauses ih =>
    refine passes_bind (passes_find hwindowed) fun found s₁ w₁ hfinds => ?_
    obtain rfl := hfinds.session_eq
    cases found with
    | some handle => exact passes_pure hfinds
    | none =>
      refine passes_then (passes_now ?_)
      split
      · exact passes_pure hfinds
      · refine passes_then (passes_step fun _ w₂ hslept => ?_)
        have houtside := World.outside_of_sleep hslept
        refine ih.mono (fun _ _ _ h => h.of_open fun hmem => ?_) fun _ _ _ h => h
        rw [houtside]
        exact hfinds.open_of_open hmem

/-- A window that has been found is in use and remembered; one that has been looked for in vain leaves
the one from before in use. -/
theorem passes_attach (hwindowed : Windowed o v) (previous : String)
    (hopen : previous ∈ v.windows w.outside) (hfocus : previous = v.focus w.outside) :
    Passes o (Passage.act setup (Act.attach setup q previous)) s w
      (fun _ s' w' => v.InFocus ⟨s', w'⟩ ∧
        ∀ {h}, h ∈ v.windows w.outside → h ∈ v.windows w'.outside)
      fun _ s' w' => s' = s ∧ v.Unmoved w.outside w'.outside := by
  refine passes_then (passes_now ?_)
  refine passes_bind ((passes_search hwindowed _ _).mono (fun _ _ _ h => h)
    fun _ _ _ h => h.elim) fun found s₁ w₁ hfinds => ?_
  obtain rfl := hfinds.session_eq
  cases found with
  | some handle =>
    refine passes_then (passes_say (passes_edit ⟨fun h heq => ?_, hfinds.open_of_open⟩))
    cases heq
    exact hfinds.found handle rfl
  | none =>
    refine passes_then (passes_call (fun _ w₂ hcalled => ?_) fun e w₂ hcalled => ?_)
    · obtain ⟨hback, -, hkeeps⟩ := hwindowed.switched hcalled.ending
      refine passes_then (passes_say (passes_fail ⟨rfl, hback.trans hfocus, fun hmem => ?_⟩))
      exact hkeeps (hfinds.open_of_open hmem)
    · -- the window from before cannot be gone, since none has been closed
      exact absurd (hfinds.open_of_open hopen) (hwindowed.notSwitched hcalled.ending).1

/-! ## Closing a window -/

theorem passes_closeWindow (hwindowed : Windowed o v) (hfocus : v.InFocus ⟨s, w⟩) :
    Passes o (Passage.act setup closeWindow) s w (fun _ s' w' => v.InFocus ⟨s', w'⟩)
      fun _ s' w' => v.InFocus ⟨s', w'⟩ := by
  refine passes_then (passes_say (passes_then (passes_call (fun _ w₁ _ => ?_)
    fun e w₁ hclosed => hfocus.unmoved rfl (hwindowed.notClosed hclosed.ending))))
  refine passes_then (passes_call (fun handles w₂ hlisted => ?_) fun e w₂ hlisted => ?_)
  · obtain rfl : handles = v.windows w₂.outside :=
      Except.ok.inj (hwindowed.handles hlisted.ending)
    split
    · rename_i next hnext
      refine passes_then (passes_call (fun _ w₃ hcalled => ?_) fun e w₃ hcalled => ?_)
      · obtain ⟨hfocus₃, hhere, -⟩ := hwindowed.switched hcalled.ending
        refine passes_edit fun h heq => ?_
        cases heq
        exact ⟨hhere, hfocus₃⟩
      · exact absurd (List.mem_of_head? hnext) (hwindowed.notSwitched hcalled.ending).1
    · exact passes_edit fun h heq => by cases heq
  · cases hwindowed.handles hlisted.ending

/-- That a window is to be closed is told, whatever comes of it. -/
theorem passes_closings : Passes o (Passage.act setup closeWindow) s w
    (fun _ _ w' => closings w.history < closings w'.history)
    fun _ _ w' => closings w.history < closings w'.history := by
  have hclosed {x : Except BrowserError Unit} {r : Remark} {w₁ : World σ}
      (h : (w.say r).Called o .close x w₁) : closings w.history < closings w₁.history := by
    have hcalls : calls w₁.history = calls w.history ++ [.close] := by
      rw [h.calls_eq]
      exact congrArg (· ++ _) (calls_notice _)
    rw [closings, closings, hcalls, List.count_append]
    exact Nat.lt_succ_self _
  refine passes_then (passes_say (passes_then (passes_call (fun _ w₁ h => ?_)
    fun _ _ h => hclosed h)))
  refine (leads_comes _).mono fun r s' w' hcomes _ => ?_
  have hle := closings_le hcomes.later.history
  cases r <;> exact Nat.lt_of_lt_of_le (hclosed h) hle

/-- An act that retains the window in use. -/
def Retains (o : Outside σ) (v : View σ) (setup : Setup) (a : Act α) : Prop :=
  ∀ s w, Leads o (a.play setup) s w fun _ s' w' => v.Retains ⟨s, w⟩ ⟨s', w'⟩

theorem Composed.retains (hwindowed : Windowed o v) {kind : Kind} (hkind : kind.shift? ≠ some .window)
    {a : Act α} (h : a.Composed setup event kind) : a.Retains o v setup :=
  fun _ _ => (preserved_act hwindowed.keeps hkind h).mono fun _ _ _ h' => .of_preserved h'

theorem Retains.bind {β : Type} {a : Act β} {f : β → Act α} (h : a.Retains o v setup)
    (hf : ∀ b, (f b).Retains o v setup) : (a >>= f).Retains o v setup := by
  intro s w
  rw [leads_play_bind]
  refine (h s w).mono fun r s' w' h' => ?_
  cases r with
  | ok b => exact (hf b s' w').mono fun _ _ _ h'' => h'.trans h''
  | error e => exact h'

theorem retains_closeWindow (hwindowed : Windowed o v) : closeWindow.Retains o v setup := by
  intro s w
  refine (leads_comes _).mono fun r s' w' hcomes => ⟨hcomes.later, ?_, ?_⟩
  · intro hclear hfocus
    have hclosed := hcomes.of_leads (passes_closeWindow hwindowed hfocus) hclear.goes
    cases r <;> exact hclosed
  · intro hclear heq
    have hclosed := hcomes.of_leads passes_closings hclear.goes
    have hlt : closings w.history < closings w'.history := by cases r <;> exact hclosed
    -- so this is none of the parts in which no window is closed
    exact absurd heq (Nat.ne_of_gt hlt)

theorem retains_browser (hwindowed : Windowed o v) (event : Event) :
    (browser setup event).Retains o v setup := by
  -- but for closing the window, all of it might be done by an event that is not for windows at all
  have hretains {α : Type} {a : Act α} (h : a.Composed setup event (.command .arg)) :
      a.Retains o v setup := h.retains hwindowed fun heq => by cases heq
  have hbrowse (action url : Option String) : (browse event action url).Retains o v setup := by
    by_cases hclose : action = some "close"
    · subst hclose
      exact retains_closeWindow hwindowed
    · exact hretains (composed_browse rfl action url fun heq => absurd heq hclose)
  rw [browser_eq]
  exact (hretains (composed_action? "url")).bind fun url =>
    (hretains (composed_action? "action")).bind fun action =>
      (hbrowse _ url).bind fun _ => hretains composed_checkBrowsed

end Act

/-! ## Events -/

namespace Stretch

/-- An event that attaches to a window leaves that one in use, or the one from before. -/
theorem passes_attaching (hwindowed : Windowed o v) {parent : Option Element}
    (hkind : event.kind = .command .attach) :
    Passes o (Passage.carryOut setup event parent) s w
      (fun _ s' w' => v.InFocus ⟨s', w'⟩ ∧
        ∀ {h}, h ∈ v.windows w.outside → h ∈ v.windows w'.outside)
      fun _ s' w' => s' = s ∧ v.Unmoved w.outside w'.outside := by
  -- which window is in use is asked for before the search moves to any other
  have hfirst : Passes o (Passage.act setup (do
      let q ← WindowQuery.ofEvent setup event
      let previous : String ← Act.call .currentWindow
      return (q, previous))) s w (fun found s' w' => s' = s ∧ v.Unmoved w.outside w'.outside ∧
        found.2 = v.focus w.outside ∧ found.2 ∈ v.windows w.outside)
      fun _ s' w' => s' = s ∧ v.Unmoved w.outside w'.outside := by
    refine Act.passes_bind ((Act.still_ofEvent event s w).mono (fun _ _ _ h => h) ?_) ?_
    · rintro _ _ _ ⟨rfl, rfl⟩
      exact ⟨rfl, .refl _⟩
    · rintro q _ _ ⟨rfl, rfl⟩
      refine Act.passes_then (Act.passes_call (fun previous w' hcalled => ?_) fun e w' hcalled => ?_)
      · obtain ⟨rfl, hopen⟩ := (hwindowed.current hcalled.ending).2 _ rfl
        have hunmoved := hwindowed.called (fun heq => by cases heq) hcalled
        exact Act.passes_pure ⟨rfl, hunmoved, rfl, hopen⟩
      · exact ⟨rfl, hwindowed.called (fun heq => by cases heq) hcalled⟩
  unfold Passage.carryOut
  rw [hkind]
  refine Passes.bind hfirst ?_
  rintro ⟨q, previous⟩ s₁ w₁ ⟨rfl, h₁, hfocus, hopen⟩
  refine Passes.bind (R := fun _ s₂ w₂ => s₂ = s₁ ∧ w₂.outside = w₁.outside)
    (passes_extend ⟨rfl, rfl⟩) ?_
  rintro _ _ w₂ ⟨rfl, houtside⟩
  rw [← houtside] at h₁
  refine Passes.bind ((Act.passes_attach hwindowed previous (h₁.open_of_open hopen)
    (hfocus.trans h₁.focus_eq.symm)).mono (fun _ _ _ h => h) ?_) ?_
  · rintro _ _ _ ⟨rfl, h⟩
    exact ⟨rfl, h₁.trans h⟩
  · rintro _ s₃ w₃ ⟨hin, hkeeps⟩
    exact passes_pure fun _ => ⟨hin, fun hmem => hkeeps (h₁.open_of_open hmem)⟩

theorem retains_browsing (hwindowed : Windowed o v) {parent : Option Element}
    (hkind : event.kind = .command .browser) :
    Leads o (Passage.carryOut setup event parent).run s w fun _ s' w' =>
      v.Retains ⟨s, w⟩ ⟨s', w'⟩ := by
  unfold Passage.carryOut
  rw [hkind]
  dsimp only
  rw [Passage.plainly, leads_run_bind]
  refine (Act.retains_browser hwindowed event s w).mono fun r s' w' h => ?_
  cases r with
  | ok _ => exact leads_run_pure _ |>.2 h
  | error _ => exact h

/-- What restores the window from before finds it, or else leaves the window in use. -/
theorem passes_restoring (hwindowed : Windowed o v) (previous : String) :
    Passes o (Passage.restore setup (.window previous)) s w
      (fun _ s' w' => v.InFocus ⟨s', w'⟩ ∧ v.focus w'.outside = previous ∧
        ∀ {h}, h ∈ v.windows w.outside → h ∈ v.windows w'.outside)
      fun _ s' w' => s' = s ∧ v.Unmoved w.outside w'.outside ∧
        previous ∉ v.windows w.outside := by
  refine Act.passes_then (Act.passes_say ?_)
  refine Act.passes_then (Act.passes_call (fun _ w' hcalled => ?_) fun e w' hcalled => ?_)
  · obtain ⟨hfocus, hhere, hkeeps⟩ := hwindowed.switched hcalled.ending
    refine Act.passes_edit ⟨fun h heq => ?_, hfocus, hkeeps⟩
    cases heq
    exact ⟨hhere, hfocus⟩
  · obtain ⟨hgone, hunmoved⟩ := hwindowed.notSwitched hcalled.ending
    exact ⟨rfl, hunmoved, hgone⟩

theorem leads_settling (hwindowed : Windowed o v) (event : Event) {opened : Opened}
    {previous : String} (hrestore : opened.restore = .window previous) :
    Leads o (Journey.settle setup event (.ok opened)).run s w fun _ s' w' =>
      w'.isStopped = false → (v.InFocus ⟨s, w⟩ → v.InFocus ⟨s', w'⟩) ∧
        (previous ∈ v.windows w.outside → v.focus w'.outside = previous ∧
          ∀ {h}, h ∈ v.windows w.outside → h ∈ v.windows w'.outside) := by
  refine Journey.leads_settle ?_
  rw [hrestore]
  refine Leads.mono (passes_restoring hwindowed previous) fun r s₁ w₁ h => ?_
  cases r with
  | ok _ =>
    intro hgoes
    obtain ⟨hin, hfocus, hkeeps⟩ := h hgoes
    exact ⟨fun _ => hin, fun _ => ⟨hfocus, hkeeps⟩⟩
  | error mishap =>
    refine (still_report event (.own mishap)).mono ?_
    rintro _ s' w' ⟨rfl, hlater, houtside⟩ hgoes
    obtain ⟨rfl, hunmoved, hgone⟩ := h (hlater.goes hgoes)
    refine ⟨fun hin => hin.unmoved rfl ?_, fun hmem => absurd hmem hgone⟩
    rw [houtside]
    exact hunmoved

end Stretch

section Tours

open Stretch

variable {parent : Option Element} {result : Except Mishap Opened} {opened : Opened}
  {carried done left : Moment σ}

/-- An event that attaches to no window retains the one in use until it has been carried out. -/
theorem retains_opened (hwindowed : Windowed o v)
    (hopen : Comes o (Passage.openEvent setup event parent).run (m.starting event parent) result
      carried) (hnot : event.kind = .command .attach → ∀ opened, result ≠ .ok opened) :
    v.Retains m carried := by
  obtain ⟨w, hworld, hcarry⟩ := comes_carryOut hopen
  have hstarts : v.Retains m (m.starting event parent) :=
    .of_outside_eq (m.later_starting event parent) rfl rfl
  have htold : v.Retains ⟨carried.session, w⟩ carried := by
    refine .of_outside_eq ?_ rfl ?_ <;> rw [hworld]
    · exact World.later_tell _ _
    · rfl
  refine hstarts.trans (View.Retains.trans ?_ htold)
  by_cases hattach : event.kind = .command .attach
  · refine .of_clear hcarry.later fun hclear => ?_
    have hpassed := hcarry.of_leads (passes_attaching hwindowed hattach) hclear.goes
    cases result with
    | ok opened => exact absurd rfl (hnot hattach opened)
    | error mishap =>
      obtain ⟨hsession, hunmoved⟩ := hpassed
      exact ⟨hcarry.later, fun _ h => h.unmoved (congrArg Session.window hsession) hunmoved,
        fun _ _ => hunmoved⟩
  by_cases hbrowser : event.kind = .command .browser
  · exact hcarry.of_leads (retains_browsing hwindowed hbrowser)
  · have hkind : event.kind.shift? ≠ some .window :=
      fun heq => (Kind.shift?_eq_window.1 heq).elim hattach hbrowser
    exact .of_preserved (hcarry.of_leads
      (preserved_passage hwindowed.keeps hkind (Passage.composed_carryOut event parent)))

/-- An event that has attached to a window leaves one in focus, and knows the window from before. -/
theorem attached_opened (hwindowed : Windowed o v)
    (hopen : Comes o (Passage.openEvent setup event parent).run (m.starting event parent)
      (.ok opened) carried) (hkind : event.kind = .command .attach)
    (hgoes : carried.world.isStopped = false) :
    v.InFocus carried ∧
      (∀ {h}, h ∈ v.windows m.world.outside → h ∈ v.windows carried.world.outside) ∧
      opened.restore = .window (v.focus m.world.outside) ∧
      v.focus m.world.outside ∈ v.windows m.world.outside := by
  have howes := owes_openEvent ⟨⟨event, parent, .ok opened⟩, m, carried, [], none⟩ hopen hgoes
  obtain ⟨w, hworld, hcarry⟩ := comes_carryOut hopen
  rw [hworld] at hgoes
  obtain ⟨hin, hkeeps⟩ := hcarry.of_leads (passes_attaching hwindowed hkind) hgoes
  have houtside : carried.world.outside = w.outside := by rw [hworld]; rfl
  rw [← houtside] at hkeeps
  refine ⟨hin.unmoved rfl (by rw [houtside]; exact .refl _), hkeeps, ?_⟩
  generalize hrestore : Visit.restore _ = r at howes
  cases howes with
  | frame _ _ _ hframe => exact absurd (hframe.symm.trans hkind) (by simp)
  | attach previous _ _ _ hending _ =>
    obtain ⟨rfl, hmem⟩ := (hwindowed.current hending).2 _ rfl
    exact ⟨hrestore, hmem⟩
  | failed hfailed => cases hfailed
  | other _ hother _ => exact absurd hkind hother

theorem inFocus_opened (hwindowed : Windowed o v)
    (hopen : Comes o (Passage.openEvent setup event parent).run (m.starting event parent) result
      carried) (hclear : carried.world.Clear .window) (hfocus : v.InFocus m) :
    v.InFocus carried := by
  by_cases hattach : event.kind = .command .attach ∧ ∃ opened, result = .ok opened
  · obtain ⟨hkind, opened, rfl⟩ := hattach
    exact (attached_opened hwindowed hopen hkind hclear.goes).1
  · exact (retains_opened hwindowed hopen fun hkind opened heq =>
      hattach ⟨hkind, opened, heq⟩).inFocus hclear hfocus

/-- What an event has come to is settled with the window from before in use, if it is still open. -/
theorem retains_settled (hwindowed : Windowed o v)
    (hopen : Comes o (Passage.openEvent setup event parent).run (m.starting event parent) result
      carried) (hwithin : v.Retains carried done) {r : Except Error Unit}
    (hsettle : Comes o (Journey.settle setup event result).run done r left) :
    v.Retains m left := by
  have hlater : m.world.Later carried.world := (m.later_starting _ _).trans hopen.later
  have hlast : carried.world.Later left.world := hwithin.later.trans hsettle.later
  refine .of_clear (hlater.trans hlast) fun hclear => ?_
  have hgoes := (hlast.clear hclear).goes
  by_cases hattach : event.kind = .command .attach ∧ ∃ opened, result = .ok opened
  · obtain ⟨hkind, opened, rfl⟩ := hattach
    obtain ⟨hfocus, hkeeps, hrestore, hmem⟩ := attached_opened hwindowed hopen hkind hgoes
    have hsettled := hsettle.of_leads (leads_settling hwindowed event hrestore) hclear.goes
    refine ⟨hlater.trans hlast, fun _ _ => ?_, fun _ heq => ?_⟩
    · exact hsettled.1 (hwithin.inFocus (hsettle.later.clear hclear) hfocus)
    · -- none has been closed within the event either, so the window from before is still there
      obtain ⟨-, heq⟩ := View.closings_eq hlater hlast heq
      obtain ⟨heq, -⟩ := View.closings_eq hwithin.later hsettle.later heq
      have hunmoved := hwithin.unmoved (hsettle.later.clear hclear) heq
      obtain ⟨hback, hkept⟩ := hsettled.2 (hunmoved.open_of_open (hkeeps hmem))
      exact ⟨hback, fun hopen => hkept (hunmoved.open_of_open (hkeeps hopen))⟩
  · have hopened := retains_opened hwindowed hopen fun hkind opened heq =>
      hattach ⟨hkind, opened, heq⟩
    refine (hopened.trans hwithin).trans (.of_preserved (hsettle.of_leads
      (preserved_settle hwindowed.keeps event result fun opened heq hback => ?_)))
    subst heq
    exact hattach ⟨(kind_of_restore hopen hgoes).2 hback, opened, rfl⟩

/-- An event starts and is over with the window in focus that the run takes to be in use, and if
none is closed in between it is over in the window in which it started. -/
structure View.Frames (v : View σ) (stay : Stay σ) : Prop where
  before : v.InFocus stay.before
  after : ∀ d, stay.departure = some d → v.InFocus d.after
  focus_eq : ∀ d, stay.departure = some d →
    closings d.after.world.history = closings stay.before.world.history →
      v.focus d.after.world.outside = v.focus stay.before.world.outside

theorem spans_frames (hwindowed : Windowed o v) : Tour.Spans setup o fun m stays r m' =>
    (r = .ok () → v.Retains m m') ∧ (m'.world.Clear .window → v.InFocus m →
      ∀ stay ∈ Stay.allOf stays, v.Frames stay) where
  refl m := ⟨fun _ => .refl m, fun _ _ => Stay.forall_allOf_nil⟩
  trans hhere hlater _ hlast := by
    have hretains := hhere.1 rfl
    refine ⟨fun hr => hretains.trans (hlater.1 hr), fun hclear hfocus => ?_⟩
    have hclear₁ := hlast.clear hclear
    exact Stay.forall_allOf_append.2 ⟨hhere.2 hclear₁ hfocus,
      hlater.2 hclear (hretains.inFocus hclear₁ hfocus)⟩
  skips _ := ⟨fun _ => .of_outside_eq (World.later_tell _ _) rfl rfl,
    fun _ _ => Stay.forall_allOf_nil⟩
  row _ _ h := by
    have hrow {m : Moment σ} {cells : Row} : v.Retains m (m.entering cells) :=
      .of_outside_eq (World.later_tell _ _) rfl rfl
    have hleft {m : Moment σ} {vars : Vars} : v.Retains m (m.withVars vars) :=
      .of_outside_eq (.refl _) rfl rfl
    refine ⟨fun hr => (hrow.trans (h.1 hr)).trans hleft, fun hclear hfocus => ?_⟩
    exact h.2 hclear (hfocus.unmoved rfl (.refl _))
  halts h hreport :=
    ⟨fun heq => (by cases heq), fun hclear => h.2 (hreport.later.clear hclear)⟩
  finishes {m event parent result carried within done left after} hopen hwithin h hsettle
      hfinish := by
    have hsettled := retains_settled hwindowed hopen (h.1 rfl) hsettle
    have hretains : v.Retains m after := hsettled.trans
      (.of_preserved (hfinish.of_leads (preserved_finish hwindowed.keeps event _)))
    refine ⟨fun _ => hretains, fun hclear hfocus => ?_⟩
    have hclear₁ := (hsettle.later.trans hfinish.later).clear hclear
    refine Stay.forall_allOf_singleton.2 ⟨⟨hfocus, ?_, ?_⟩, h.2 hclear₁
      (inFocus_opened hwindowed hopen (hwithin.later.clear hclear₁) hfocus)⟩
    · rintro _ ⟨⟩
      exact hretains.inFocus hclear hfocus
    · rintro _ ⟨⟩ heq
      exact (hretains.unmoved hclear heq).focus_eq
  loses {m event parent result carried within done e m'} hopen hwithin h hsettle := by
    refine ⟨fun heq => (by cases heq), fun hclear hfocus => ?_⟩
    have hclear₁ := hsettle.later.clear hclear
    exact Stay.forall_allOf_singleton.2
      ⟨⟨hfocus, fun _ heq => (by cases heq), fun _ heq => (by cases heq)⟩,
        h.2 hclear₁ (inFocus_opened hwindowed hopen (hwithin.later.clear hclear₁) hfocus)⟩
  unwinds {m event parent result carried within e m'} hopen hwithin h := by
    refine ⟨fun heq => (by cases heq), fun hclear hfocus => ?_⟩
    exact Stay.forall_allOf_singleton.2
      ⟨⟨hfocus, fun _ heq => (by cases heq), fun _ heq => (by cases heq)⟩,
        h.2 hclear (inFocus_opened hwindowed hopen (hwithin.later.clear hclear) hfocus)⟩

end Tours

/-! ## Whole runs -/

section Runs

variable {calendar : Calendar} {stopAt : Option Duration} {events : List Event} {outside : σ}
  {ended : Ended σ}

/-- The run begins with the window in focus that the browser tells of. -/
theorem inFocus_begun (hwindowed : Windowed o v) {begun : Moment σ}
    (hbegun : Stretch.Comes o (Journey.noteWindow >>= fun _ =>
      Stretch.fire setup { phase := .beforeTest }) m () begun)
    (hnone : m.session.window = none) (hclear : begun.world.Clear .window) :
    v.InFocus begun := by
  have hunknown {w : World σ} : v.InFocus ⟨m.session, w⟩ :=
    fun _ heq => by cases hnone.symm.trans heq
  have hnoted : m.world.Leads o (Worker.call (.untilStop none) .currentWindow) fun x w₁ =>
      v.InFocus ⟨Stretch.noting m.session x, w₁⟩ := by
    rw [Worker.call, World.leads_guarded]
    split
    · exact hunknown
    rcases hres : m.world.step o (.untilStop none) (.act (.call .currentWindow)) with
      ⟨_ | _ | handle, w₁⟩
    · exact hunknown
    · exact hunknown
    · have hending := World.ending_of_act hres
      obtain ⟨rfl, hopen⟩ := (hwindowed.current hending).2 _ rfl
      have hunmoved := hwindowed.unmoved (fun heq => by cases heq) hending
      rintro _ ⟨⟩
      exact ⟨hunmoved.open_of_open hopen, hunmoved.focus_eq⟩
  refine hbegun.of_leads (Stretch.leads_begin (Q := fun s' w' => w'.Clear .window →
    v.InFocus ⟨s', w'⟩) (hnoted.mono fun x w₁ h => ?_)) hclear
  exact (World.preserves_fire hwindowed.keeps _ _).mono
    fun _ _ h' hclear => h.unmoved rfl (h'.keeps hclear)

/-- In a run every event starts and is over with the window in focus that the run takes to be in
use. -/
structure Focused (v : View σ) (course : Course setup o calendar stopAt events outside ended)
    (stays : List (Stay σ)) : Prop where
  toured : Toured course stays
  frames : ∀ stay ∈ Stay.allOf stays, v.Frames stay

/-- **In a run that is not stopped, and in which no plugin closes or switches windows, the window that
the run takes to be in use is open and in use wherever an event starts or is over**, and an event
within which no window is closed is over in the window in which it has started. -/
theorem focused_of_run (hrun : setup.run o calendar stopAt events outside = some ended)
    (hwindowed : Windowed o v) (hnot : ¬ Stopped ended.world.history)
    (hplugins : Abides (pluginLaw .window) ended.world.history) :
    ∃ (course : Course setup o calendar stopAt events outside ended) (stays : List (Stay σ)),
      Focused v course stays := by
  obtain ⟨course⟩ := exists_course hrun
  obtain ⟨stays, htoured⟩ := course.toured
  obtain ⟨begun, hbegun, htour⟩ := htoured.tour
  have hended : ended.world.Clear .window :=
    ⟨(coherent_of_run hrun).goes hnot, hplugins⟩
  have hbefore : course.before.Clear .window :=
    (course.later_after.trans course.later_end).clear hended
  have hfocus : v.InFocus begun :=
    inFocus_begun hwindowed hbegun rfl (htour.later.clear hbefore)
  exact ⟨course, stays, htoured, (htour.spans (spans_frames hwindowed)).2 hbefore hfocus⟩

/-- The windows of a browser with nothing in them. -/
def Tabs.view : View Tabs := ⟨Tabs.windows, Tabs.focus⟩

theorem windowed_tabs : Windowed .tabs Tabs.view where
  handles h := by cases h; rfl
  current {x r y} h := by
    cases h
    refine ⟨fun hmem => if_pos hmem, fun h heq => ?_⟩
    by_cases hmem : x.focus ∈ x.windows
    · have hok := heq.symm.trans (if_pos hmem)
      cases hok
      exact ⟨rfl, hmem⟩
    · have hfailed := heq.symm.trans (if_neg hmem)
      cases hfailed
  title {x e y} h hmem := by
    have heq := (congrArg Prod.fst (Option.some.inj h)).symm.trans (if_pos hmem)
    cases heq
  currentUrl {x e y} h hmem := by
    have heq := (congrArg Prod.fst (Option.some.inj h)).symm.trans (if_pos hmem)
    cases heq
  switched {handle x y} h := by
    simp only [Outside.tabs, Tabs.conduct] at h
    split at h
    · rename_i hmem
      cases h
      exact ⟨rfl, hmem, id⟩
    · cases h
  notSwitched {handle x e y} h := by
    simp only [Outside.tabs, Tabs.conduct] at h
    split at h
    · cases h
    · rename_i hmem
      cases h
      exact ⟨hmem, .refl _⟩
  notClosed {x e y} h := by
    simp only [Outside.tabs, Tabs.conduct] at h
    split at h
    · cases h
    · cases h
      exact .refl _
  unmoved {a x r y} hshift h := by
    rcases a with c | _ | _ | _ | _
    · cases c with
      | switchToWindow | close => exact absurd rfl hshift
      | switchToFrame | switchToDefaultContent => cases h; exact ⟨rfl, id⟩
      | windowHandles | currentWindow | title | currentUrl => cases h; exact .refl _
      | _ => cases h
    all_goals cases h

/-- An event that attaches to a window; within it another one is looked for in vain, and the one that
has been attached to is closed. -/
def closingEvents : List Event :=
  [{ kind := .command .attach, name := "attach", selectors := ⟨[("index", .text "1")]⟩,
     children := [
       { kind := .command .attach, name := "attach", selectors := ⟨[("title", .text "none")]⟩ },
       { kind := .command .browser, name := "browser", actions := ⟨[("action", .text "close")]⟩ }] }]

theorem focused_closingRun : ∃ ended, Setup.small.run .tabs ⟨2020, 1, 1, 0, 0, 0⟩ none
      closingEvents ⟨["main", "other"], "main", []⟩ = some ended ∧ Windowed .tabs Tabs.view ∧
    ¬ Stopped ended.world.history ∧ Abides (pluginLaw .window) ended.world.history ∧
    closings ended.world.history = 1 ∧
    ∃ (course : Course .small .tabs ⟨2020, 1, 1, 0, 0, 0⟩ none closingEvents
        ⟨["main", "other"], "main", []⟩ ended) (stays : List (Stay Tabs)),
      Focused Tabs.view course stays := by
  have hshown : (Setup.small.run .tabs ⟨2020, 1, 1, 0, 0, 0⟩ none closingEvents
      ⟨["main", "other"], "main", []⟩).map (fun ended => (ended.world.isStopped,
        decide (Abides (pluginLaw .window) ended.world.history), closings ended.world.history)) =
      some (false, true, 1) := by
    decide +kernel
  obtain ⟨ended, hrun, hshown⟩ := Option.map_eq_some_iff.1 hshown
  rw [Prod.mk.injEq, Prod.mk.injEq] at hshown
  obtain ⟨hgoes, hplugins, hcount⟩ := hshown
  have hnot := (coherent_of_run hrun).not_stopped hgoes
  have habides := of_decide_eq_true hplugins
  exact ⟨ended, hrun, windowed_tabs, hnot, habides, hcount,
    focused_of_run hrun windowed_tabs hnot habides⟩

end Runs
end PageScript
