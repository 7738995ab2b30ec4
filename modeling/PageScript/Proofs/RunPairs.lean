import PageScript.Proofs.ElementTwins

/-!
# Whole runs alongside

What every event does side by side, the traversal does: through the rows of tables, through included
scripts and through the children of events, with different elements as parents. So the worker of a
run is paired with itself.
-/

namespace PageScript

variable {α β ε : Type} {E : Element → Element → Prop} {setup : Setup} {event : Event}
  {parent parent' : Option Element} {follow : List Event → Option Element → Journey Unit}
  {inside inside' : Journey Unit} {below below' : Option Element → Journey Unit}

theorem Event.eta (event : Event) :
    ⟨event.kind, event.name, event.selectors, event.actions, event.args, event.text,
      event.children⟩ = event := by
  cases event
  rfl

namespace Detour

theorem twins_pure {R : α → β → Prop} {a : α} {b : β} (h : R a b) :
    Stretch.Twins E (pure a : Detour α).run (pure b : Detour β).run (Agrees R) :=
  Stretch.twins_pure (.ok h)

theorem twins_ofPassage {R : α → β → Prop} {p : Passage α} {p' : Passage β}
    (h : Stretch.Twins E p.run p'.run (Agrees R)) :
    Stretch.Twins E (ofPassage p).run (ofPassage p').run (Agrees R) := by
  refine h.map fun r r' hr => ?_
  cases hr with
  | ok hab => exact .ok hab
  | error m => exact .error _

theorem twins_enterRow (cells : Row) :
    Stretch.Twins E (enterRow cells).run (enterRow cells).run (Agrees Eq) := by
  have htell : Stretch.Twins E (Stretch.ofWorker (Worker.tell (.row cells)))
      (Stretch.ofWorker (Worker.tell (.row cells))) Eq :=
    Stretch.twins_ofWorker (Worker.paired_tell rfl)
  refine (htell.run_lift).run_bind_eq fun _ => (Stretch.twins_modify fun s s' hs => ?_).run_lift
  exact ⟨hs.stored, by rw [hs.rest], hs.plugins⟩

theorem twins_leaveRow : Stretch.Twins E leaveRow.run leaveRow.run (Agrees Eq) := by
  refine Stretch.twins_run_get_bind fun s s' hs => ?_
  rw [hs.vars_eq]
  cases s.vars.pop with
  | ok vars =>
    have hput : Stretch.Twins E (modify fun s => { s with vars }) (modify fun s => { s with vars })
        Eq := Stretch.twins_modify fun t t' ht => ⟨ht.stored, by rw [ht.rest], ht.plugins⟩
    exact hput.run_lift
  | error e => exact Stretch.twins_pure (.error _)

theorem twins_orHalt (r : Except Error Unit) :
    Stretch.Twins E (orHalt r).run (orHalt r).run (Agrees Eq) := by
  cases r with
  | ok _ => exact Stretch.twins_pure (.ok rfl)
  | error e => exact Stretch.twins_pure (.error _)

/-- A part of the traversal, whatever its end. -/
theorem twins_within {j j' : Journey Unit} (h : Stretch.Twins E j.run j'.run (Agrees Eq)) :
    Stretch.Twins E (within j).run (within j').run (Agrees Eq) :=
  (h.mono fun _ _ => Agrees.eq).run_lift

theorem twins_forRows (hinside : Stretch.Twins E inside.run inside'.run (Agrees Eq))
    (rows : List Row) :
    Stretch.Twins E (forRows inside rows).run (forRows inside' rows).run (Agrees Eq) := by
  induction rows with
  | nil => exact twins_pure rfl
  | cons cells rows ih =>
    have hstopped : Stretch.Twins E (Detour.ofWorker Worker.isStopped).run
        (Detour.ofWorker Worker.isStopped).run (Agrees Eq) :=
      (Stretch.twins_ofWorker (Worker.paired_inner (r := .isStopped) rfl)).run_lift
    refine hstopped.run_bind_eq fun stopped => ?_
    split
    · exact twins_pure rfl
    · exact (twins_enterRow cells).run_bind_eq fun _ =>
        (twins_within hinside).run_bind_eq fun result => twins_leaveRow.run_bind_eq fun _ =>
          (twins_orHalt result).run_bind_eq fun _ => ih

theorem twins_followInner (hparent : Option.Rel E parent parent')
    (hfollow : ∀ events parent parent', Option.Rel E parent parent' →
      Stretch.Twins E (follow events parent).run (follow events parent').run (Agrees Eq))
    (hinside : Stretch.Twins E inside.run inside'.run (Agrees Eq)) (inner : Inner) :
    Stretch.Twins E (followInner follow inside parent inner).run
      (followInner follow inside' parent' inner).run (Agrees Eq) := by
  cases inner with
  | nothing => exact twins_pure rfl
  | rows rows => exact twins_forRows hinside rows
  | events events =>
    exact (twins_within (hfollow events parent parent' hparent)).run_bind_eq twins_orHalt

end Detour

namespace Journey

theorem twins_pure {R : α → β → Prop} {a : α} {b : β} (h : R a b) :
    Stretch.Twins E (pure a : Journey α).run (pure b : Journey β).run (Agrees R) :=
  Stretch.twins_pure (.ok h)

theorem twins_ofWorker {R : α → β → Prop} {w : Worker α} {w' : Worker β}
    (h : Worker.Paired E R w w') :
    Stretch.Twins E (ofWorker w).run (ofWorker w').run (Agrees R) :=
  (Stretch.twins_ofWorker h).run_lift

theorem twins_say (r : Remark) : Stretch.Twins E (say r).run (say r).run (Agrees Eq) :=
  twins_ofWorker (Worker.paired_say (.refl r))

theorem twins_tell {s s' : Stage}
    (h : (Notice.stage s').report? = (Notice.stage s).report?) :
    Stretch.Twins E (tell s).run (tell s').run (Agrees Eq) :=
  twins_ofWorker (Worker.paired_tell h)

theorem twins_pulse : Stretch.Twins E pulse.run pulse.run (Agrees Eq) :=
  twins_ofWorker (Worker.paired_inner (r := .pulse) rfl)

theorem twins_report (event : Event) (children : List Event) (failure : Failure) :
    Stretch.Twins E (report event failure).run (report { event with children } failure).run
      (Agrees Eq) := by
  have htell : Stretch.Twins E (tell (.failed event failure)).run
      (tell (.failed { event with children } failure)).run (Agrees Eq) := twins_tell rfl
  have hrequired : { event with children }.required = event.required := rfl
  refine htell.run_bind_eq fun _ => ?_
  rw [hrequired]
  split
  · exact twins_say _
  · split <;> exact twins_say _
  · exact twins_say _
  · exact (twins_say _).run_bind_eq fun _ => Stretch.twins_pure (.error _)
  · exact Stretch.twins_pure (.error _)

theorem twins_leave (event : Event) (children : List Event) (r : Restore) :
    Stretch.Twins E (leave setup event r).run (leave setup { event with children } r).run
      (Agrees Eq) := by
  have hrestore : Stretch.Twins E (Passage.restore setup r).run (Passage.restore setup r).run Eq :=
    (Passage.twins_restore event r).mono fun _ _ => Agrees.eq
  refine (hrestore.run_lift (ε := Error)).run_bind_eq fun result => ?_
  cases result with
  | ok _ => exact twins_pure rfl
  | error mishap => exact twins_report event children _

theorem twins_descend {result result' : Except Failure Opened}
    (h : Agrees (Opened.Akin E) result result')
    (hbelow : ∀ element element', Option.Rel E element element' →
      Stretch.Twins E (below element).run (below' element').run (Agrees Eq)) :
    Stretch.Twins E (descend setup below event result).run
      (descend setup below' event result').run (Agrees (Option.Rel E)) := by
  cases h with
  | error failure =>
    have hreport : Stretch.Twins E (report event failure).run _ (Agrees Eq) :=
      twins_report event event.children failure
    rw [event.eta] at hreport
    exact hreport.run_bind_eq fun _ => twins_pure .none
  | @ok opened opened' hopened =>
    have hleave : Stretch.Twins E (leave setup event opened.restore).run _ (Agrees Eq) :=
      twins_leave event event.children _
    rw [event.eta] at hleave
    unfold descend
    dsimp only
    rw [hopened.restore_eq]
    split
    · exact (hbelow _ _ hopened.element).run_bind_eq fun _ => hleave.run_bind_eq fun _ =>
        twins_pure hopened.element
    · exact hleave.run_bind_eq fun _ => twins_pure hopened.element

theorem twins_runEvent (hsetup : setup.Steady E) (hparent : Option.Rel E parent parent')
    (hfollow : ∀ events parent parent', Option.Rel E parent parent' →
      Stretch.Twins E (follow events parent).run (follow events parent').run (Agrees Eq))
    (hinside : Stretch.Twins E inside.run inside'.run (Agrees Eq))
    (hbelow : ∀ element element', Option.Rel E element element' →
      Stretch.Twins E (below element).run (below' element').run (Agrees Eq)) :
    Stretch.Twins E (runEvent setup follow inside below event parent).run
      (runEvent setup follow inside' below' event parent').run (Agrees Eq) := by
  have hopened : Stretch.Twins E (Detour.ofPassage (Passage.openEvent setup event parent)).run
      (Detour.ofPassage (Passage.openEvent setup event parent')).run (Agrees (Opened.Akin E)) := by
    have hopen (children : List Event) : Stretch.Twins E (Passage.openEvent setup event parent).run
        (Passage.openEvent setup { event with children } parent').run (Agrees (Opened.Akin E)) :=
      Passage.twins_openEvent hsetup children hparent
    have hopened := hopen event.children
    rw [event.eta] at hopened
    exact Detour.twins_ofPassage hopened
  have hopening : Stretch.Twins E (Detour.opening setup follow inside event parent).run
      (Detour.opening setup follow inside' event parent').run (Agrees (Opened.Akin E)) := by
    refine hopened.run_bind fun opened opened' h => ?_
    rw [h.inner_eq]
    exact (Detour.twins_followInner hparent hfollow hinside opened.inner).run_bind_eq fun _ =>
      Detour.twins_pure h
  have hstarted : Stretch.Twins E (tell (.started event parent)).run
      (tell (.started event parent')).run (Agrees Eq) := twins_tell rfl
  refine hstarted.run_bind_eq fun _ => twins_pulse.run_bind_eq fun _ =>
    (hopening.run_lift).run_bind fun result result' h =>
      (twins_descend h hbelow).run_bind fun element element' helement => ?_
  have hfinished : Stretch.Twins E (tell (.finished event element)).run
      (tell (.finished event element')).run (Agrees Eq) := twins_tell rfl
  have hafter : Stretch.Twins E
      (Stretch.fire setup { phase := .afterEvent, event := some event, element })
      (Stretch.fire setup { phase := .afterEvent, event := some event, element := element' }) Eq :=
    Stretch.twins_fire ⟨rfl, rfl, helement⟩
  exact twins_pulse.run_bind_eq fun _ => hfinished.run_bind_eq fun _ => hafter.run_lift

mutual

theorem twins_visitOne (hsetup : setup.Steady E)
    (hfollow : ∀ events parent parent', Option.Rel E parent parent' →
      Stretch.Twins E (follow events parent).run (follow events parent').run (Agrees Eq))
    (event : Event) (parent parent' : Option Element) (hparent : Option.Rel E parent parent') :
    Stretch.Twins E (visitOne setup follow event parent).run
      (visitOne setup follow event parent').run (Agrees Eq) :=
  match event with
  | ⟨_, _, _, _, _, _, children⟩ => by
    rw [visitOne, visitOne]
    exact twins_runEvent hsetup hparent hfollow
      (twins_visitAll hsetup hfollow children parent parent' hparent)
      (twins_visitAll hsetup hfollow children)

theorem twins_visitAll (hsetup : setup.Steady E)
    (hfollow : ∀ events parent parent', Option.Rel E parent parent' →
      Stretch.Twins E (follow events parent).run (follow events parent').run (Agrees Eq))
    (events : List Event) (parent parent' : Option Element)
    (hparent : Option.Rel E parent parent') :
    Stretch.Twins E (visitAll setup follow events parent).run
      (visitAll setup follow events parent').run (Agrees Eq) :=
  match events with
  | [] => by
    rw [visitAll, visitAll]
    exact twins_pure rfl
  | event :: events => by
    rw [visitAll, visitAll]
    refine (twins_ofWorker (Worker.paired_inner (r := .isStopped) rfl)).run_bind_eq fun stopped => ?_
    split
    · exact twins_say _
    · exact (twins_visitOne hsetup hfollow event parent parent' hparent).run_bind_eq fun _ =>
        twins_visitAll hsetup hfollow events parent parent' hparent

end

theorem twins_visit (hsetup : setup.Steady E) (depth : Nat) (events : List Event)
    (parent parent' : Option Element) (hparent : Option.Rel E parent parent') :
    Stretch.Twins E (visit setup depth events parent).run
      (visit setup depth events parent').run (Agrees Eq) := by
  induction depth generalizing events parent parent' with
  | zero => exact twins_ofWorker Worker.paired_giveUp
  | succ depth ih => exact twins_visitAll hsetup ih events parent parent' hparent

theorem twins_noteWindow : Stretch.Twins E noteWindow noteWindow Eq := by
  refine (Stretch.twins_ofWorker (Worker.paired_call _ (.bare rfl))).bind fun r r' hr => ?_
  obtain rfl := (hr.mono fun _ _ => Agrees.eq).eq
  split
  · exact Stretch.twins_modify fun s s' hs => hs.edit nofun nofun
  · exact Stretch.twins_pure rfl

theorem twins_test (hsetup : setup.Steady E) (events : List Event) :
    Stretch.Twins E (test setup events) (test setup events) Eq := by
  have hafter : Stretch.Twins E (get >>= fun s => Stretch.ofWorker (s.fireAfterTest setup))
      (get >>= fun s => Stretch.ofWorker (s.fireAfterTest setup)) Eq :=
    Stretch.twins_get_bind fun _ _ hs => Stretch.twins_ofWorker (paired_fireAfterTest hs)
  have hmain : Stretch.Twins E (main setup events) (main setup events) Eq :=
    twins_noteWindow.bind_eq fun _ => (Stretch.twins_fire ⟨rfl, rfl, .none⟩).bind_eq fun _ =>
      (twins_visit hsetup setup.nesting events none none .none).mono fun _ _ => Agrees.eq
  exact hmain.bind_eq fun result => hafter.bind_eq fun _ => Stretch.twins_pure rfl

end Journey

/-- A session that has kept no elements yet is like itself. -/
theorem Setup.akin_session (hsetup : setup.Steady E) (calendar : Calendar) :
    (setup.session calendar).Akin E (setup.session calendar) :=
  ⟨.nil, rfl, fun _ => hsetup.active⟩

/-- **The worker of a run is paired with itself**, whatever elements it is given. -/
theorem Setup.paired_worker (hsetup : setup.Steady E) (events : List Event) (calendar : Calendar) :
    Worker.Paired E Eq (setup.worker events (setup.session calendar))
      (setup.worker events (setup.session calendar)) := by
  refine (Worker.paired_say (.refl _)).bind_self fun _ =>
    (Worker.paired_say (.refl _)).bind_self fun _ =>
      (Journey.twins_test hsetup events _ _ (setup.akin_session hsetup calendar)).bind ?_
  rintro ⟨result, s⟩ ⟨_, s'⟩ ⟨rfl, -⟩
  cases result with
  | error e => exact (Worker.paired_say (.refl _)).bind_self fun _ => .done rfl
  | ok _ => exact (Worker.paired_inner (r := .isStopped) rfl).bind_self fun _ => .done rfl

end PageScript
