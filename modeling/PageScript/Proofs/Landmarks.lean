import PageScript.Proofs.PluginTurns
import PageScript.Proofs.ContextKept

/-!
# Cues

The landmarks of a history show in what order a run goes on: events start, call the browser, are carried
out and finish, and between them occasions for plugins come and plugins start. What a plugin does
while it is under way is no landmark. So the plugins of an occasion leave no more than the occasion
itself, the query for open windows that comes before them, and their names.
-/

namespace PageScript

/-- Something that shows in what order a run goes on. -/
inductive Landmark where
  | started (event : Event)
  /-- The browser is called, but not by a plugin. -/
  | called (c : Call)
  | carriedOut (event : Event) (result : Except Mishap Opened)
  | occasion (o : Occasion)
  /-- A plugin starts at a phase. -/
  | plugin (phase : Phase) (name : String)
  | finished (event : Event) (element : Option Element)

/-- The landmarks of a history, in order. -/
def landmarks : List Happening → List Landmark
  | [] => []
  | .called c :: past =>
    if (underWay past).isNone then landmarks past ++ [.called c] else landmarks past
  | .stage (.started event _) :: past => landmarks past ++ [.started event]
  | .stage (.carriedOut event result) :: past => landmarks past ++ [.carriedOut event result]
  | .stage (.occasion o) :: past => landmarks past ++ [.occasion o]
  | .stage (.pluginStarted name (some phase)) :: past => landmarks past ++ [.plugin phase name]
  | .stage (.finished event element) :: past => landmarks past ++ [.finished event element]
  | _ :: past => landmarks past

/-- The names of the plugins that have started, in order. -/
def Landmark.names (landmarks : List Landmark) : List String :=
  landmarks.filterMap fun
    | .plugin _ name => some name
    | _ => none

theorem Landmark.names_append (landmarks landmarks' : List Landmark) :
    Landmark.names (landmarks ++ landmarks') = Landmark.names landmarks ++ Landmark.names landmarks' :=
  List.filterMap_append

/-- What a step tells by itself: a call of the browser, if it is one. -/
def Step.landmarks : Step → List Landmark
  | .act (.call c) => [.called c]
  | _ => []

section Histories

variable {h : Happening} {past : List Happening} {ok : Stopper → Prop}

theorem landmarks_ambient (hambient : h.Ambient ok) : landmarks (h :: past) = landmarks past := by
  cases hambient <;> rfl

theorem landmarks_remark (r : Remark) : landmarks (.notice r.notice :: past) = landmarks past := by
  cases r <;> rfl

end Histories

variable {σ : Type} {o : Outside σ} {setup : Setup} {g : Guard} {ok : Stopper → Prop}
  {told told' : List Landmark} {w w' w'' : World σ}

namespace World

/-- From one world to another, neither of which has a plugin under way, these landmarks come. -/
def Tells (told : List Landmark) (w w' : World σ) : Prop :=
  underWay w.history = none → underWay w'.history = none ∧
    landmarks w'.history = landmarks w.history ++ told

theorem Tells.trans (h : w.Tells told w') (h' : w'.Tells told' w'') :
    w.Tells (told ++ told') w'' := by
  intro hway
  obtain ⟨hway', hlandmarks⟩ := h hway
  obtain ⟨hway'', hlandmarks'⟩ := h' hway'
  exact ⟨hway'', by rw [hlandmarks', hlandmarks, List.append_assoc]⟩

/-- Where nothing is told at first, what is told later is all. -/
theorem Tells.after (h : w.Tells [] w') (h' : w'.Tells told w'') : w.Tells told w'' :=
  h.trans h'

theorem Tells.before (h : w.Tells told w') (h' : w'.Tells [] w'') : w.Tells told w'' := by
  simpa using h.trans h'

theorem Tells.refl (w : World σ) : w.Tells [] w :=
  fun hway => ⟨hway, (List.append_nil _).symm⟩

/-- What happens by itself leaves the landmarks and the plugin that is under way as they are. -/
theorem landmarks_of_adds (h : w.Adds (Happening.Ambient ok) w') :
    underWay w'.history = underWay w.history ∧ landmarks w'.history = landmarks w.history :=
  h.keeps
    (P := fun past => underWay past = underWay w.history ∧ landmarks past = landmarks w.history)
    (fun _ _ hambient hpast =>
      ⟨(underWay_ambient hambient).trans hpast.1, (landmarks_ambient hambient).trans hpast.2⟩)
    ⟨rfl, rfl⟩

theorem tells_of_adds (h : w.Adds (Happening.Ambient ok) w') : w.Tells [] w' := fun hway =>
  ⟨(landmarks_of_adds h).1.trans hway, (landmarks_of_adds h).2.trans (List.append_nil _).symm⟩

theorem tells_say (w : World σ) (r : Remark) : w.Tells [] (w.say r) := fun hway =>
  ⟨(underWay_remark r).trans hway, (landmarks_remark r).trans (List.append_nil _).symm⟩

theorem tells_stop (w : World σ) (who : Stopper) : w.Tells [] (w.stop who) :=
  tells_of_adds (adds_stop w trivial : w.Adds (Happening.Ambient fun _ => True) _)

theorem tells_pulse (w : World σ) : w.Tells [] w.pulse :=
  fun hway => ⟨hway, (List.append_nil _).symm⟩

theorem tells_extend (w : World σ) (d : Duration) : w.Tells [] (w.extend d) :=
  fun hway => ⟨hway, (List.append_nil _).symm⟩

theorem tells_step (o : Outside σ) (g : Guard) (w : World σ) (s : Step) :
    w.Tells s.landmarks (w.step o g s).2 := by
  have hnote : w.Tells s.landmarks (w.noteStep s) := by
    rcases s with (c | _ | _ | _ | _) | _ | _
    · intro hway
      refine ⟨hway, ?_⟩
      change landmarks (.called c :: w.history) = _
      rw [landmarks, hway]
      rfl
    all_goals exact .refl w
  exact hnote.before (tells_of_adds (elapses_step o g w s).adds)

theorem tells_guarded (s : Step) : w.Leads o (Worker.guarded g s) fun _ w' =>
    w.Tells (if g.heedsStop && w.isStopped then [] else s.landmarks) w' := by
  rw [leads_guarded]
  split
  · exact .refl w
  · exact tells_step o g w s

/-! ## Plugins -/

/-- While a plugin is under way nothing is told. -/
theorem under_tells (o : Outside σ) (g : Guard) (phase : Option Phase) (told : List Landmark) :
    Under o g (fun w : World σ => underWay w.history = some phase ∧ landmarks w.history = told)
      fun _ w => landmarks w.history = told := by
  have hadds {ok : Stopper → Prop} {w w' : World σ} (h : w.Adds (Happening.Ambient ok) w')
      (hw : underWay w.history = some phase ∧ landmarks w.history = told) :
      underWay w'.history = some phase ∧ landmarks w'.history = told :=
    ⟨(landmarks_of_adds h).1.trans hw.1, (landmarks_of_adds h).2.trans hw.2⟩
  have hstep {w : World σ} (s : Step)
      (hw : underWay w.history = some phase ∧ landmarks w.history = told) :
      underWay (w.step o g s).2.history = some phase ∧ landmarks (w.step o g s).2.history = told := by
    refine hadds (elapses_step o g w s).adds ?_
    rcases s with (c | _ | _ | _ | _) | _ | _
    · refine ⟨hw.1, ?_⟩
      change landmarks (.called c :: w.history) = _
      rw [landmarks, hw.1]
      exact hw.2
    all_goals exact hw
  exact {
    say := fun r h => ⟨(underWay_remark r).trans h.1, (landmarks_remark r).trans h.2⟩
    stop := fun {w} h => hadds (adds_stop w trivial : w.Adds (Happening.Ambient fun _ => True) _) h
    step := fun s x h heq => by
      have hnext := hstep s h
      rwa [heq] at hnext
    cut := fun s cut h heq => by
      have hnext := hstep s h
      rw [heq] at hnext
      exact hnext.2 }

/-- The landmark of a plugin that starts, if it starts at a phase. -/
def startLandmarks (p : Plugin) (phase : Option Phase) : List Landmark :=
  (phase.map fun phase => .plugin phase p.name).toList

/-- A plugin that has its turn tells of its start. -/
theorem tells_plugin (p : Plugin) (phase : Option Phase) (c : PluginContext) :
    w.Leads o (p.run g phase c) fun r w' =>
      r = .error .cancelled ∧ w.Tells [] w' ∨ w.Tells (startLandmarks p phase) w' := by
  have hstarted : landmarks (.stage (.pluginStarted p.name phase) :: w.history) =
      landmarks w.history ++ startLandmarks p phase := by
    cases phase with
    | none => exact (List.append_nil _).symm
    | some phase => rfl
  have hover {w' : World σ} {stage : Stage}
      (hlandmarks : landmarks w'.history = landmarks w.history ++ startLandmarks p phase)
      (hstage : ∀ past, underWay (.stage stage :: past) = none ∧
        landmarks (.stage stage :: past) = landmarks past) :
      w.Tells (startLandmarks p phase) (w'.tell (.stage stage)) := fun _ =>
    ⟨(hstage _).1, (hstage _).2.trans hlandmarks⟩
  exact (under_tells o g phase (landmarks w.history ++ startLandmarks p phase)).plugin p c
    (fun _ => .inl ⟨rfl, .refl w⟩) (fun _ => ⟨rfl, hstarted⟩)
    (fun _ _ h => .inr (hover h.2 fun _ => ⟨rfl, rfl⟩))
    fun _ _ h => .inr (hover h fun _ => ⟨rfl, rfl⟩)

/-- The landmarks of plugins that start at an occasion. -/
def turnLandmarks (occasion : Occasion) (names : List String) : List Landmark :=
  names.map (.plugin occasion.phase)

/-- A dispatch tells of the query for open windows, if there are plugins at all, and then of plugins
that start at its phase. -/
theorem tells_dispatch (s : Session) {occasion : Occasion}
    (hgoes : (g.heedsStop && w.isStopped) = false) :
    w.Leads o (s.dispatch setup g occasion) fun _ w' => ∃ names,
      w.Tells ((if s.registry.isEmpty then [] else [.called .windowHandles]) ++
        turnLandmarks occasion names) w' := by
  unfold Session.dispatch
  split
  · exact World.leads_pure _ |>.2 ⟨[], .refl w⟩
  have hsay {w' : World σ} (r : Remark)
      (h : ∃ names, w.Tells ([.called .windowHandles] ++ turnLandmarks occasion names) w') :
      ∃ names, w.Tells ([.called .windowHandles] ++ turnLandmarks occasion names) (w'.say r) := by
    obtain ⟨names, h⟩ := h
    exact ⟨names, h.before (tells_say w' r)⟩
  -- a turn is told of when it begins; one that does not begin tells nothing
  have hplugin (w' : World σ) (p : Plugin) (c : PluginContext)
      (h : ∃ names, w.Tells ([.called .windowHandles] ++ turnLandmarks occasion names) w') :
      w'.Leads o (p.run g (some occasion.phase) c) fun _ w'' =>
        ∃ names, w.Tells ([.called .windowHandles] ++ turnLandmarks occasion names) w'' := by
    obtain ⟨names, h⟩ := h
    refine (tells_plugin p (some occasion.phase) c).mono fun _ w'' h' => ?_
    rcases h' with ⟨-, h'⟩ | h'
    · exact ⟨names, h.before h'⟩
    · refine ⟨names ++ [p.name], ?_⟩
      have htrans := h.trans h'
      rw [List.append_assoc] at htrans
      rw [turnLandmarks, List.map_append]
      exact htrans
  rw [leads_bind]
  refine (tells_guarded _).mono fun result w' h => ?_
  rw [hgoes] at h
  have hasked : ∃ names, w.Tells ([.called .windowHandles] ++ turnLandmarks occasion names) w' :=
    ⟨[], h⟩
  rcases result with (_ | _) | _ | handles
  · exact leads_bind _ _ |>.2 (leads_say _ |>.2 (leads_pure _ |>.2 (hsay _ hasked)))
  · exact leads_pure _ |>.2 hasked
  · exact leads_bind _ _ |>.2 (leads_say _ |>.2 (leads_pure _ |>.2 (hsay _ hasked)))
  · dsimp only
    split
    · exact Session.leads_runPlugins setup s (fun _ r _ => hsay r) hplugin _ hasked
    · exact leads_bind _ _ |>.2 (leads_say _ |>.2 (leads_pure _ |>.2 (hsay _ hasked)))

end World

namespace Firing

variable {f : Firing σ}

/-- The names of the plugins that have started at a firing, in order. -/
def ran (f : Firing σ) : List String :=
  (Landmark.names (PageScript.landmarks f.after.history)).drop
    (Landmark.names (PageScript.landmarks f.before.history)).length

/-- The landmarks of a firing. -/
def landmarks (f : Firing σ) : List Landmark :=
  .occasion f.occasion :: (if f.session.registry.isEmpty then [] else [.called .windowHandles]) ++
    World.turnLandmarks f.occasion f.ran

theorem ran_eq {names : List String} {told : List Landmark} (hnone : Landmark.names told = [])
    (hlandmarks : PageScript.landmarks f.after.history =
      PageScript.landmarks f.before.history ++ (told ++ World.turnLandmarks f.occasion names)) :
    f.ran = names := by
  have hnames : Landmark.names (World.turnLandmarks f.occasion names) = names := by
    rw [Landmark.names, World.turnLandmarks, List.filterMap_map]
    exact List.filterMap_some
  rw [ran, hlandmarks, Landmark.names_append, Landmark.names_append, hnone, hnames]
  exact List.drop_left

theorem tells_occasion (f : Firing σ) : f.before.Tells [.occasion f.occasion]
    (f.before.tell (.stage (.occasion f.occasion))) :=
  fun hway => ⟨hway, rfl⟩

/-- A firing tells of its occasion, of the query for open windows, and of the plugins that start at
its phase. -/
theorem Comes.tells (h : f.Comes setup o) : f.before.Tells f.landmarks f.after := by
  have hgoes : ((f.guard setup).heedsStop && f.before.isStopped) = false := by
    cases hstop : f.before.isStopped with
    | false => exact Bool.and_false _
    | true =>
      have hphase : f.occasion.phase = .afterTest := by
        by_contra hne
        rw [h.goes hne] at hstop
        cases hstop
      rw [guard, if_pos hphase, hstop]
      rfl
  obtain ⟨r, w, ⟨names, htells⟩, hafter⟩ := h.dispatched (World.tells_dispatch f.session hgoes)
  have hended : w.Tells [] f.after := by
    rw [hafter, ending]
    split
    · refine World.Tells.after ?_ (World.tells_say _ _)
      split
      · exact .refl w
      · exact World.tells_stop w _
    · exact .refl w
  have htold := f.tells_occasion.trans (htells.before hended)
  rw [← List.append_assoc] at htold
  intro hway
  obtain ⟨hway', hlandmarks⟩ := htold hway
  refine ⟨hway', ?_⟩
  rw [landmarks, ran_eq (by split <;> rfl) hlandmarks]
  exact hlandmarks

end Firing
end PageScript
