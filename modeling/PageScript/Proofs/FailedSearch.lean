import PageScript.Proofs.ActEndings
import PageScript.Proofs.WindowInUse

/-!
# Where a search leaves the browser

An event that looks for a window makes the browser go through many of them. If it has looked in vain it
goes back to the window from before. But if a call of the search fails, the event ends there, and the
browser stays in the window that it has been switched to last. So an event that has not attached to any
window may leave the events after it in another window than the one before it, with all windows open.

The window in use is read off the calls: it is the one that the last of them has switched to.
-/

namespace PageScript

variable {σ α β : Type} {o : Outside σ} {setup : Setup} {event : Event} {s : Session}
  {w w' w'' : World σ} {focus : σ → String}

/-- A browser with a window in use, which is another one only after a switch that has been answered, or
after a window has been closed. -/
structure Outside.Focuses (o : Outside σ) (focus : σ → String) : Prop where
  current : ∀ {x h y}, (o (.call .currentWindow) x).ending = some (.ok h, y) → h = focus x
  switched : ∀ {h x y}, (o (.call (.switchToWindow h)) x).ending = some (.ok (), y) → focus y = h
  notSwitched : ∀ {h x e y}, (o (.call (.switchToWindow h)) x).ending = some (.error e, y) →
    focus y = focus x
  unmoved : ∀ {c x r y}, c.shift? ≠ some .window → (o (.call c) x).ending = some (r, y) →
    focus y = focus x

/-- The window in use after a call that has been answered. -/
def Call.moves (here : String) : Call → String
  | .switchToWindow handle => handle
  | _ => here

/-- The window in use after calls that have been answered. -/
def walk (start : String) (made : List Call) : String := made.foldl Call.moves start

/-- These calls have been made and answered, and have led to the window in use. -/
structure World.Walks (focus : σ → String) (made : List Call) (w w' : World σ) : Prop where
  calls_eq : calls w'.history = calls w.history ++ made
  focus_eq : focus w'.outside = walk (focus w.outside) made

namespace World

theorem Walks.refl (focus : σ → String) (w : World σ) : w.Walks focus [] w :=
  ⟨(List.append_nil _).symm, rfl⟩

theorem Walks.trans {made later : List Call} (h : w.Walks focus made w')
    (h' : w'.Walks focus later w'') : w.Walks focus (made ++ later) w'' where
  calls_eq := by rw [h'.calls_eq, h.calls_eq, List.append_assoc]
  focus_eq := by rw [h'.focus_eq, h.focus_eq, walk, walk, walk, List.foldl_append]

/-- Where no call is made, the window in use stays. -/
theorem walks_nil (hcalls : calls w'.history = calls w.history) (houtside : w'.outside = w.outside) :
    w.Walks focus [] w' :=
  ⟨hcalls.trans (List.append_nil _).symm, congrArg focus houtside⟩

theorem walks_call (hfocuses : o.Focuses focus) {c : Call} (hc : c ≠ .close) {x : c.Answer}
    (hcalled : w.Called o c (.ok x) w') : w.Walks focus [c] w' := by
  refine ⟨hcalled.calls_eq, ?_⟩
  cases c with
  | close => exact absurd rfl hc
  | switchToWindow handle => exact hfocuses.switched hcalled.ending
  | _ => exact hfocuses.unmoved (by simp [Call.shift?]) hcalled.ending

/-- A call that fails leaves the window in use. -/
theorem focus_of_failed (hfocuses : o.Focuses focus) {c : Call} (hc : c ≠ .close)
    {e : BrowserError} (hcalled : w.Called o c (.error e) w') :
    focus w'.outside = focus w.outside := by
  cases c with
  | close => exact absurd rfl hc
  | switchToWindow handle => exact hfocuses.notSwitched hcalled.ending
  | _ => exact hfocuses.unmoved (by simp [Call.shift?]) hcalled.ending

end World

/-- A call has failed, and the window in use is the one that the calls before it have led to. -/
inductive World.Fails (o : Outside σ) (focus : σ → String) (w : World σ) :
    Mishap → World σ → Prop where
  | intro {made : List Call} {c : Call} {e : BrowserError} {asked w' : World σ} :
      w.Walks focus made asked → asked.Called o c (.error e) w' →
      focus w'.outside = walk (focus w.outside) made → Fails o focus w (.ofBrowser e) w'

theorem World.Fails.after {made : List Call} {m : Mishap} (h : w'.Fails o focus m w'')
    (hwalks : w.Walks focus made w') : w.Fails o focus m w'' := by
  cases h with
  | intro hmade hcalled hfocus =>
    have hall := hwalks.trans hmade
    refine .intro hall hcalled ?_
    rw [hfocus, ← hmade.focus_eq, ← hall.focus_eq]

namespace Act

open Stretch

/-- An act that does not change what the run remembers, and that ends early only where a call fails. -/
def Strolls (o : Outside σ) (focus : σ → String) (setup : Setup) (a : Act α) : Prop :=
  ∀ s w, Passes o (Passage.act setup a) s w
    (fun _ s' w' => s' = s ∧ ∃ made, w.Walks focus made w')
    fun m s' w' => s' = s ∧ w.Fails o focus m w'

theorem strolls_pure (a : α) : Strolls o focus setup (pure a : Act α) :=
  fun _ w => passes_pure ⟨rfl, [], .refl focus w⟩

theorem Strolls.bind {a : Act β} {f : β → Act α} (ha : Strolls o focus setup a)
    (hf : ∀ b, Strolls o focus setup (f b)) : Strolls o focus setup (a >>= f) := by
  intro s w
  refine passes_bind (ha s w) ?_
  rintro b _ w₁ ⟨rfl, made, hmade⟩
  refine (hf b _ w₁).mono ?_ ?_
  · rintro _ s' w' ⟨hs, later, hlater⟩
    exact ⟨hs, made ++ later, hmade.trans hlater⟩
  · rintro m s' w' ⟨hs, hfails⟩
    exact ⟨hs, hfails.after hmade⟩

theorem strolls_now : Strolls o focus setup (move .now) :=
  fun _ w => passes_now ⟨rfl, [], .refl focus w⟩

theorem strolls_sleep (d : Duration) : Strolls o focus setup (step (.sleep d)) := by
  intro s w
  exact passes_step fun x w' hslept => ⟨rfl, [],
    World.walks_nil (World.adds_of_sleep hslept).calls_eq (World.outside_of_sleep hslept)⟩

theorem strolls_call (hfocuses : o.Focuses focus) {c : Call} (hc : c ≠ .close) :
    Strolls o focus setup (call c) := by
  intro s w
  refine passes_call (fun x w' hcalled => ?_) fun e w' hcalled => ?_
  · exact ⟨rfl, [c], World.walks_call hfocuses hc hcalled⟩
  · exact ⟨rfl, .intro (.refl focus w) hcalled (World.focus_of_failed hfocuses hc hcalled)⟩

variable {q : WindowQuery}

/-- One look makes the browser go from window to window. -/
theorem strolls_find (hfocuses : o.Focuses focus) : Strolls o focus setup q.find := by
  have hmatches (wanted : Option String) (c : Call) (hc : c ≠ .close) (read : c.Answer → String) :
      Strolls o focus setup (WindowQuery.matchesBy wanted c read) := by
    cases wanted with
    | none => exact strolls_pure _
    | some wanted => exact (strolls_call hfocuses hc).bind fun _ => strolls_pure _
  have hscan (handles : List String) : Strolls o focus setup (q.scan handles) := by
    induction handles with
    | nil => exact strolls_pure _
    | cons handle rest ih =>
      refine (strolls_call (c := .switchToWindow handle) hfocuses nofun).bind fun _ =>
        (hmatches q.title .title nofun id).bind fun found => ?_
      split
      · exact strolls_pure _
      · refine (hmatches q.url .currentUrl nofun id).bind fun found => ?_
        split
        · exact strolls_pure _
        · exact ih
  refine (strolls_call (c := .windowHandles) hfocuses nofun).bind fun handles => ?_
  split
  · exact hscan _
  · split
    · exact strolls_pure _
    · rename_i handle _
      exact (strolls_call (c := .switchToWindow handle) hfocuses nofun).bind fun _ =>
        strolls_pure _

/-- The looks of a search, however many, and the pauses between them. -/
theorem strolls_search (hfocuses : o.Focuses focus) (deadline : Duration) (pauses : Nat) :
    Strolls o focus setup (q.search deadline pauses) := by
  induction pauses with
  | zero => exact strolls_find hfocuses
  | succ pauses ih =>
    refine (strolls_find hfocuses).bind fun found => ?_
    cases found with
    | some handle => exact strolls_pure _
    | none =>
      refine strolls_now.bind fun now => ?_
      split
      · exact strolls_pure _
      · exact (strolls_sleep _).bind fun _ => ih

end Act

/-- How an event that attaches to a window may end without one. -/
inductive World.Strays (o : Outside σ) (focus : σ → String) (w : World σ) :
    Mishap → World σ → Prop where
  /-- It has looked in vain, and has gone back. -/
  | back {w' : World σ} : focus w'.outside = focus w.outside → Strays o focus w .abort w'
  /-- It does not say what to look for, and nothing has been done. -/
  | unasked (e : Error) : Strays o focus w (.fault e) w
  /-- A call has failed, and the browser stays where the calls before it have led. -/
  | failed {m : Mishap} {w' : World σ} : w.Fails o focus m w' → Strays o focus w m w'

namespace Act

open Stretch

/-- An event that does not say what to look for does nothing. -/
theorem passes_unasked : Passes o (Passage.act setup (WindowQuery.ofEvent setup event)) s w
    (fun _ s' w' => s' = s ∧ w' = w)
    fun m s' w' => s' = s ∧ w' = w ∧ ∃ e, m = .fault e := by
  refine passes_then (passes_fill? (passes_then (passes_fill? (passes_then (passes_fill? ?_)))))
  generalize (event.selectors.text? "index").map (substitute setup.hijacks s.vars) = index
  cases index with
  | some raw =>
    dsimp only
    split
    · exact passes_pure ⟨rfl, rfl⟩
    · exact passes_fail ⟨rfl, rfl, _, rfl⟩
  | none =>
    dsimp only
    split
    · exact passes_fail ⟨rfl, rfl, _, rfl⟩
    · exact passes_pure ⟨rfl, rfl⟩

/-- Where no window has been found, going back is what comes last. -/
theorem passes_strayed (hfocuses : o.Focuses focus) (q : WindowQuery) (previous : String) :
    Passes o (Passage.act setup (attach setup q previous)) s w (fun _ _ _ => True)
      fun m s' w' => s' = s ∧
        ((m = .abort ∧ focus w'.outside = previous) ∨ w.Fails o focus m w') := by
  refine passes_then (passes_now ?_)
  refine passes_bind ((strolls_search hfocuses _ _ s w).mono (fun _ _ _ h => h) ?_) ?_
  · rintro m s' w' ⟨hs, hfails⟩
    exact ⟨hs, .inr hfails⟩
  · rintro found _ w₁ ⟨rfl, made, hmade⟩
    cases found with
    | some handle => exact passes_then (passes_say (passes_edit trivial))
    | none =>
      refine passes_then (passes_call (fun _ w₂ hcalled => ?_) fun e w₂ hcalled => ?_)
      · have hback : focus w₂.outside = previous := hfocuses.switched hcalled.ending
        exact passes_then (passes_say (passes_fail ⟨rfl, .inl ⟨rfl, hback⟩⟩))
      · have hstays := hfocuses.notSwitched hcalled.ending
        exact ⟨rfl, .inr (.intro hmade hcalled (hstays.trans hmade.focus_eq))⟩

/-- What comes before the search leaves the window in use, and finds out which one it is. -/
theorem passes_setOut (hfocuses : o.Focuses focus) : Passes o (Passage.act setup (do
    let q ← WindowQuery.ofEvent setup event
    let previous : String ← call .currentWindow
    return (q, previous))) s w
    (fun found s' w' => s' = s ∧ found.2 = focus w.outside ∧
      w.Walks focus [.currentWindow] w')
    fun m s' w' => s' = s ∧ w.Strays o focus m w' := by
  have hnot : Call.currentWindow ≠ .close := nofun
  refine passes_bind (passes_unasked.mono (fun _ _ _ h => h) ?_) ?_
  · rintro m s' w' ⟨hs, rfl, e, rfl⟩
    exact ⟨hs, .unasked e⟩
  · rintro q s₁ w₁ ⟨hs, rfl⟩
    refine passes_then (passes_call (fun previous w₂ hcalled => ?_) fun e w₂ hcalled => ?_)
    · have hprevious : previous = focus w₁.outside := hfocuses.current hcalled.ending
      exact passes_pure ⟨hs, hprevious, World.walks_call hfocuses hnot hcalled⟩
    · have hstays := World.focus_of_failed hfocuses hnot hcalled
      exact ⟨hs, .failed (.intro (.refl focus w₁) hcalled hstays)⟩

end Act

open Stretch

/-- **Where an event that has not attached to a window leaves the browser.** It comes to an end, and if it
does not succeed in a run that has not been stopped by then, the run still takes the window from before
to be in use. The browser is back in that window if the event has looked in vain. If a call of the
search has failed, the browser is in the window to which the calls before it have led. -/
theorem strays_of_attach (hfocuses : o.Focuses focus) (hkind : event.kind = .command .attach)
    (parent : Option Element) (s : Session) (w : World σ) :
    Lands o (Passage.carryOut setup event parent).run s w fun r s' w' => w'.isStopped = false →
      ∀ mishap, r = .error mishap → s' = s ∧ w.Strays o focus mishap w' := by
  have hpasses : Passes o (Passage.carryOut setup event parent) s w (fun _ _ _ => True)
      fun m s' w' => s' = s ∧ w.Strays o focus m w' := by
    unfold Passage.carryOut
    rw [hkind]
    refine Passes.bind (Act.passes_setOut hfocuses) ?_
    rintro ⟨q, previous⟩ s₁ w₁ ⟨hs₁, hprevious, hasked⟩
    let w₂ := w₁.extend setup.attachPatience
    have hextended : w.Walks focus [.currentWindow] w₂ :=
      ⟨(calls_notice _).trans hasked.calls_eq, hasked.focus_eq⟩
    refine Passes.bind (R := fun _ s' w' => s' = s₁ ∧ w' = w₂) (passes_extend ⟨rfl, rfl⟩) ?_
    rintro _ s₂ _ ⟨hs₂, rfl⟩
    refine Passes.bind ((Act.passes_strayed hfocuses q previous).mono (fun _ _ _ h => h) ?_)
      fun _ _ _ _ => passes_pure fun _ => trivial
    rintro m s₃ w₃ ⟨hs₃, ⟨rfl, hback⟩ | hfails⟩
    · exact ⟨hs₃.trans (hs₂.trans hs₁), .back (hback.trans hprevious)⟩
    · exact ⟨hs₃.trans (hs₂.trans hs₁), .failed (hfails.after hextended)⟩
  refine (Passage.finishes_carryOut event parent).lands (Leads.mono hpasses ?_)
  rintro r s' w' h hgoes mishap rfl
  exact h hgoes

/-! ## A window without a title -/

/-- Two windows, of which the second one does not tell its title. -/
def Outside.shy : Outside Tabs
  | .call .title, t =>
    if t.focus = "other" then .answer t (.error (.script "no title")) else .answer t (.ok "title")
  | a, t => Outside.tabs a t

theorem shy_eq {c : Call} (hc : c ≠ .title) (t : Tabs) :
    Outside.shy (.call c) t = Outside.tabs (.call c) t := by
  cases c with
  | title => exact absurd rfl hc
  | _ => rfl

theorem focuses_shy : Outside.shy.Focuses Tabs.focus where
  current {x h y} heq := by
    rw [shy_eq (c := .currentWindow) nofun] at heq
    exact ((windowed_tabs.current heq).2 h rfl).1
  switched {h x y} heq := by
    rw [shy_eq (c := .switchToWindow h) nofun] at heq
    exact (windowed_tabs.switched heq).1
  notSwitched {h x e y} heq := by
    rw [shy_eq (c := .switchToWindow h) nofun] at heq
    exact (windowed_tabs.notSwitched heq).2.focus_eq
  unmoved {c x r y} hc heq := by
    by_cases htitle : c = .title
    · subst htitle
      simp only [Outside.shy] at heq
      split at heq <;> cases heq <;> rfl
    · rw [shy_eq htitle] at heq
      exact (windowed_tabs.unmoved (a := .call c) hc heq).focus_eq

/-- An event that looks for a title. -/
def titleEvent : Event :=
  { kind := .command .attach, name := "attach", selectors := ⟨[("title", .text "none")]⟩ }

theorem strays_of_attach_shy :
    let s := Setup.small.session ⟨2020, 1, 1, 0, 0, 0⟩
    let w : World Tabs := .start .small ⟨2020, 1, 1, 0, 0, 0⟩ none ⟨["main", "other"], "main", []⟩
    Outside.shy.Focuses Tabs.focus ∧ ∃ r s' w' mishap,
      World.run .shy ((Passage.carryOut .small titleEvent none).run s) w = some ((r, s'), w') ∧
      w'.isStopped = false ∧ r = .error mishap ∧ s' = s ∧
      w.Strays .shy Tabs.focus mishap w' ∧ w'.outside.focus = "other" := by
  intro s w
  have hshown : (World.run .shy ((Passage.carryOut .small titleEvent none).run s) w).map
      (fun x => (x.2.isStopped, x.1.1.toBool, x.2.outside.focus)) =
        some (false, false, "other") := by
    decide +kernel
  have hlands : Stretch.Lands .shy (Passage.carryOut .small titleEvent none).run s w _ :=
    strays_of_attach focuses_shy rfl none s w
  obtain ⟨r, s', w', hrun, h⟩ := hlands
  rw [hrun, Option.map_some, Option.some.injEq, Prod.mk.injEq, Prod.mk.injEq] at hshown
  obtain ⟨hgoes, hfails, hfocus⟩ := hshown
  cases r with
  | ok opened => cases hfails
  | error mishap =>
    obtain ⟨hs, hstrays⟩ := h hgoes mishap rfl
    exact ⟨focuses_shy, _, s', w', mishap, hrun, hgoes, rfl, hs, hstrays, hfocus⟩

/-- **An event that does not succeed leaves its run in another window.** Both windows stay open, and the
run is not stopped; the event has begun in the first window, and it ends in the second one, since that
does not tell its title. -/
theorem strayed_shy :
    (Setup.small.run .shy ⟨2020, 1, 1, 0, 0, 0⟩ none [titleEvent]
      ⟨["main", "other"], "main", []⟩).map (fun ended => (ended.world.isStopped,
        (results ended.world.history).map fun x => x.2.toBool, calls ended.world.history,
        ended.world.outside)) =
      some (false, [false], [.currentWindow, .currentWindow, .windowHandles,
        .switchToWindow "main", .title, .switchToWindow "other", .title],
        ⟨["main", "other"], "other", []⟩) := by
  decide +kernel

end PageScript
