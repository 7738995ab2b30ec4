import PageScript.Proofs.SceneOrder

/-!
# Which plugins have their turns

At every occasion of a run the active plugins are those that are active from the start, in the order
of the configuration, and after them those that events have made active by then, in the order of
these events and as often as they have done so. If the run is not stopped and the window in use is
open, those of them that cover the occasion are served one after another, each once for each time it
has become active, and no others. A plugin that fails is reported once and keeps no other one from
its turn.
-/

namespace PageScript

variable {σ : Type} {o : Outside σ} {setup : Setup} {event : Event} {s : Session} {w w' : World σ}
  {g : Guard} {occasion : Occasion}

/-! ## Matchers and names -/

/-- A matcher covers a phase of an event with this tag: it is for the phase, and unless the phase
belongs to the whole test or it lists no tags, it lists one that is equal up to the case of ASCII
letters. -/
def Matcher.Covers (m : Matcher) (phase : Phase) (tag : Option String) : Prop :=
  m.phase = phase ∧ (phase.isTestScoped = true ∨ m.elements = [] ∨
    ∃ t, tag = some t ∧ ∃ listed ∈ m.elements, listed.toLower = t.toLower)

theorem Matcher.accepts_iff (m : Matcher) (phase : Phase) (tag : Option String) :
    m.accepts phase tag = true ↔ m.Covers phase tag := by
  unfold accepts Covers
  rw [Bool.and_eq_true, Bool.or_eq_true, Bool.or_eq_true, beq_iff_eq, List.isEmpty_iff, or_assoc]
  refine and_congr_right fun _ => or_congr_right (or_congr_right ?_)
  cases tag with
  | none => simp
  | some t => simp [Text.sameIgnoringCase]

instance (m : Matcher) (phase : Phase) (tag : Option String) : Decidable (m.Covers phase tag) :=
  decidable_of_iff _ (m.accepts_iff phase tag)

namespace Registration

theorem accepting_eq (registry : List Registration) (phase : Phase) (tag : Option String) :
    accepting registry phase tag =
      (registry.filter fun r => r.matcher.Covers phase tag).map plugin := by
  unfold accepting
  congr 1
  refine List.filter_congr fun r _ => ?_
  rw [Bool.eq_iff_iff, decide_eq_true_iff]
  exact r.matcher.accepts_iff phase tag

/-- A registration is the last one of a name. -/
def LastNamed (catalog : List Registration) (name : String) (r : Registration) : Prop :=
  r.plugin.name = name ∧ ∃ front back, catalog = front ++ r :: back ∧
    ∀ other ∈ back, other.plugin.name ≠ name

theorem named?_eq_some_iff {catalog : List Registration} {name : String} {r : Registration} :
    named? catalog name = some r ↔ LastNamed catalog name r := by
  unfold named? LastNamed
  rw [List.findRev?_eq_find?_reverse, List.find?_eq_some_iff_append, beq_iff_eq]
  refine and_congr_right fun _ => ⟨?_, ?_⟩
  · rintro ⟨back, front, heq, hother⟩
    refine ⟨front.reverse, back.reverse, ?_, fun other hmem => ?_⟩
    · rw [← List.reverse_reverse catalog, heq]
      simp
    · simpa using hother other (List.mem_reverse.1 hmem)
  · rintro ⟨front, back, rfl, hother⟩
    refine ⟨back.reverse, front.reverse, by simp, fun other hmem => ?_⟩
    simpa using hother other (List.mem_reverse.1 hmem)

end Registration

/-- An event makes a plugin active exactly if it is for that and has been carried out, and then the
last one that is configured under its name. -/
structure Visit.Enlists (setup : Setup) (v : Visit) (s : Session) : Prop where
  isSome_iff : (v.loads setup s).isSome = true ↔
    v.event.kind = .command .pluginloader ∧ ∃ opened, v.result = .ok opened
  named : ∀ r, v.loads setup s = some r → ∃ raw, v.event.actions.text? "classname" = some raw ∧
    Registration.LastNamed (Configured.catalog setup.plugins)
      (substitute setup.hijacks s.vars raw) r

theorem Visit.enlists {v : Visit} {before carried : Moment σ}
    (h : Stretch.Comes o (Passage.openEvent setup v.event v.parent).run
      (before.starting v.event v.parent) v.result carried) : v.Enlists setup before.session := by
  obtain ⟨event, parent, result⟩ := v
  obtain ⟨w, -, hcarry⟩ := Stretch.comes_carryOut h
  refine ⟨⟨fun hsome => ?_, ?_⟩, fun r hloads => ?_⟩
  · unfold loads at hsome
    split at hsome
    · rename_i opened hkind hresult
      exact ⟨hkind, opened, hresult⟩
    · cases hsome
  · rintro ⟨hkind, opened, hresult⟩
    exact (hcarry.of_leads (Stretch.leads_loadPlugin hkind parent)).2.2.2 opened hresult
  · unfold loads at hloads
    split at hloads
    · obtain ⟨raw, htext, hnamed⟩ := Option.bind_eq_some_iff.1 hloads
      exact ⟨raw, htext, Registration.named?_eq_some_iff.1 hnamed⟩
    · cases hloads

/-! ## Turns -/

/-- Plugins that are served tell of their starts and of nothing else. -/
theorem Session.Serves.tells {results : List (Plugin × Except Error Unit)}
    (h : Serves setup o s g occasion w results w') :
    w.Tells (World.turnLandmarks occasion (results.map fun served => served.1.name)) w' := by
  induction h with
  | nil w => exact .refl w
  | @cons p result w w₁ w' results hrun _ ih =>
    have htold : w₁.Tells [] (w₁.toldResult p result) := by
      cases result with
      | ok _ => exact .refl w₁
      | error e => exact World.tells_say w₁ _
    have hstarted := World.tells_plugin p (some occasion.phase) _ _ _ hrun
    rcases hstarted with ⟨heq, -⟩ | hstarted
    · cases heq
    · exact (((World.tells_say w _).after hstarted).before htold).trans ih

namespace Firing

variable {f : Firing σ}

/-- The plugins that cover the occasion of a firing, in the order in which they have become active.
-/
def due (f : Firing σ) : List Plugin :=
  (f.session.registry.filter fun r => r.matcher.Covers f.occasion.phase f.occasion.tag).map
    Registration.plugin

/-- The plugins that are due are served one after another, and these are all that start. -/
def Dispatches (setup : Setup) (o : Outside σ) (f : Firing σ) (w₁ : World σ) : Prop :=
  f.ran = f.due.map Plugin.name ∧ ∃ results, results.map Prod.fst = f.due ∧
    Session.Serves setup o f.session (f.guard setup) f.occasion
      (if f.session.registry.isEmpty then f.before.tell (.stage (.occasion f.occasion)) else w₁)
      results f.after

/-- **The plugins that cover an occasion have their turns at it, and no others**, if the run has not
been stopped by then and the window in use is open. -/
theorem Comes.dispatches (h : f.Comes setup o) (hway : underWay f.before.history = none)
    (hgoes : f.after.isStopped = false) {w₁ : World σ} (hfinds : f.Finds setup o w₁) :
    f.Dispatches setup o w₁ := by
  obtain ⟨results, hmap, hserves⟩ := h.serves hgoes hfinds
  rw [Registration.accepting_eq] at hmap
  obtain ⟨handles, hquery, -⟩ := hfinds
  have hasked : (f.before.tell (.stage (.occasion f.occasion))).Tells
      [.called .windowHandles] w₁ := by
    have htold := World.tells_guarded _ _ _ hquery
    have hstop : (f.before.tell (.stage (.occasion f.occasion))).isStopped = false :=
      h.later.goes hgoes
    rw [hstop, Bool.and_false] at htold
    exact htold
  have htells : ∃ told, Landmark.names told = [] ∧ f.before.Tells
      (told ++ World.turnLandmarks f.occasion (results.map fun served => served.1.name)) f.after := by
    split at hserves
    · exact ⟨_, rfl, f.tells_occasion.trans hserves.tells⟩
    · exact ⟨_, rfl, (f.tells_occasion.trans hasked).trans hserves.tells⟩
  obtain ⟨told, hnone, htells⟩ := htells
  refine ⟨?_, results, hmap, hserves⟩
  rw [ran_eq hnone (htells hway).2, due, ← hmap, List.map_map]
  rfl

end Firing

/-! ## Whole runs -/

section Runs

variable {calendar : Calendar} {stopAt : Option Duration} {events : List Event} {outside : σ}
  {ended : Ended σ}

/-- At every occasion of a run the plugins that have become active by then, and that are due, have
their turns. -/
structure Enlisted (course : Course setup o calendar stopAt events outside ended)
    (stays : List (Stay σ)) (scenes : List (Scene σ)) : Prop
    extends Recounted course stays scenes where
  registry_eq : ∀ earlier f later, scenes = earlier ++ .fired f :: later →
    f.session.registry =
      Configured.active setup.plugins ++ earlier.filterMap (Scene.loads setup)
  enlists : ∀ visit before carried, .carriedOut visit before carried ∈ scenes →
    visit.Enlists setup before.session
  dispatches : ∀ f w₁, .fired f ∈ scenes → f.after.isStopped = false → f.Finds setup o w₁ →
    f.Dispatches setup o w₁

/-- **Every run serves at each occasion the plugins that are active by then and cover it**: those
that are configured to be active from the start and those that events have made active since, in
this order.
-/
theorem enlisted_of_run (hrun : setup.run o calendar stopAt events outside = some ended) :
    ∃ (course : Course setup o calendar stopAt events outside ended) (stays : List (Stay σ))
      (scenes : List (Scene σ)), Enlisted course stays scenes := by
  obtain ⟨course⟩ := exists_course hrun
  obtain ⟨stays, scenes, hrecounted⟩ := course.recounted
  have hspan := hrecounted.between
  refine ⟨course, stays, scenes, hrecounted, fun earlier f later heq => ?_,
    fun visit before carried hmem => ?_, fun f w₁ hmem hgoes hfinds => ?_⟩
  · exact (hspan.precede earlier f later heq).registry_eq
  · cases hspan.comes _ hmem with
    | carriedOut hopen _ => exact Visit.enlists hopen
  · obtain ⟨earlier, later, heq⟩ := List.append_of_mem hmem
    have htells := (hspan.precede earlier f later heq).tells
    have hway := (htells (World.landmarks_opened setup calendar stopAt events outside).1).1
    cases hspan.comes _ hmem with
    | fired hcomes _ => exact hcomes.dispatches hway hgoes hfinds

/-- A plugin of this name that fails after events. -/
def Configured.failing (name : String) (elements : List String) (onlyCatalog : Bool) :
    Configured where
  registration := {
    matcher := { phase := .afterEvent, elements }
    plugin := { name, execute := fun _ => pure (.error .cancelled) } }
  onlyCatalog

/-- One plugin that is active from the start, and two of one name that are not. -/
def Setup.growing : Setup :=
  .small [.failing "first" [] false, .failing "later" ["wait"] true, .failing "later" ["puts"] true]

/-- An event makes a plugin active, and another one follows. -/
def loadingEvents : List Event :=
  [{ kind := .command .pluginloader, name := "pluginloader",
     actions := ⟨[("classname", .text "later")]⟩ },
   { kind := .command .puts, name := "puts", actions := ⟨[("txt", .text "done")]⟩ }]

theorem enlisted_loadingRun : ∃ ended, Setup.growing.run .oneWindow ⟨2020, 1, 1, 0, 0, 0⟩ none
      loadingEvents () = some ended ∧
    Landmark.names (landmarks ended.world.history) = ["first", "first", "later"] ∧
    ∃ (course : Course .growing .oneWindow ⟨2020, 1, 1, 0, 0, 0⟩ none loadingEvents () ended)
      (stays : List (Stay Unit)) (scenes : List (Scene Unit)), Enlisted course stays scenes := by
  have hshown : (Setup.growing.run .oneWindow ⟨2020, 1, 1, 0, 0, 0⟩ none loadingEvents ()).map
      (fun ended => Landmark.names (landmarks ended.world.history) == ["first", "first", "later"]) =
        some true := by
    decide +kernel
  obtain ⟨ended, hrun, hnames⟩ := Option.map_eq_some_iff.1 hshown
  exact ⟨ended, hrun, eq_of_beq hnames, enlisted_of_run hrun⟩

end Runs
end PageScript
