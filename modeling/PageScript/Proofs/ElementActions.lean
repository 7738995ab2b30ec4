import PageScript.Proofs.RunResults
import PageScript.Proofs.ActPlans
import PageScript.Proofs.RunTours

/-!
# Elements are acted on as planned

What an event does with its element is planned: the calls that its actions ask for, in a fixed order,
whatever order they are written in. Only two things are not known beforehand: whether an element that
is to be selected is so already, and what is read into a variable, which later actions may refer to.
Both are what the browser answers on the way.

The calls made once the element has been found are always the first ones of the plan. They are all of
it unless one of them fails, or the run is stopped, and only then does the event succeed and run its
children. An event that expects no such element is the exception: where it finds one, it does nothing
with it.
-/

namespace PageScript

variable {σ α : Type} {o : Outside σ} {setup : Setup}

open Exchange

/-! ## Plans of events -/

namespace Exchange

/-- What has been answered to the question whether an element is selected. -/
def state? : Exchange → Option Bool
  | ⟨.isSelected _, some (.ok selected)⟩ => some selected
  | _ => none

/-- What has been read of an element. -/
def content? : Exchange → Option String
  | ⟨.value _, some (.ok text)⟩ => some text
  | ⟨.text _, some (.ok text)⟩ => some text
  | _ => none

/-- Whether the element has been found to be selected; not so if nothing has been answered. -/
def selectedBy (log : List Exchange) : Bool :=
  (log.findSome? state?).getD false

/-- What has been read of the element last. -/
def contentBy (log : List Exchange) : String :=
  (log.reverse.findSome? content?).getD ""

end Exchange

namespace Event

variable (setup : Setup) (event : Event) (element : Element) (vars : Vars)

/-- The calls that set the element, which is selected or not. -/
def setCalls (selected : Bool) : List Call :=
  match event.actions.get? "set" with
  | some (.flag wanted) =>
    if event.kind = .control .radio ∧ wanted = false then []
    else .isSelected element :: if wanted = selected then [] else [.click element]
  | some (.text raw) =>
    let text := substitute setup.hijacks vars raw
    if event.kind = .control .select then [.selectOption element (.text text)]
    else [.setValue element text]
  | none => []

/-- The call that reads the element: its value, or else its text. -/
def readCall : Call :=
  if event.kind.showsValue then .value element else .text element

/-- The variables after the element has been read into one. -/
def varsAfter (log : List Exchange) : Vars :=
  match event.filled? setup vars "var" with
  | some name => vars.put name (contentBy log)
  | none => vars

/-- The calls that come after the element has been read into a variable. -/
def finalCalls : List Call :=
  List.flatten [
    (event.filled? setup vars "jscriptevent").toList.map (.fireEvent element ·),
    if event.actions.flag? "click" = some true then [.click element] else [],
    match event.actions.flag? "alert" with
    | some true => [.acceptAlert]
    | some false => [.dismissAlert]
    | none => []]

/-- **The calls that an event makes of its element**, in order, given what is answered on the way. -/
def plan (log : List Exchange) : List Call :=
  List.flatten [
    if (event.actions.flag? "disabled").isSome then [.isEnabled element] else [],
    if event.actions.flag? "clear" = some true then [.clear element] else [],
    event.setCalls setup element vars (selectedBy log),
    (event.filled? setup vars "setreal").toList.map fun value => .selectOption element (.value value),
    (event.filled? setup vars "append").toList.map (.appendValue element ·),
    if (event.actions.text? "assert").isSome || (event.actions.text? "assertnot").isSome then
      [event.readCall element] else [],
    if (event.actions.text? "var").isSome then [event.readCall element] else [],
    event.finalCalls setup element (event.varsAfter setup vars log)]

variable {setup event element vars}

/-- None of the calls that come last reads the element. -/
theorem contentBy_finalCalls {earlier log : List Exchange}
    (hlog : log.map (·.call) <+: event.finalCalls setup element vars) :
    contentBy (earlier ++ log) = contentBy earlier := by
  have hno : ∀ x ∈ log, x.content? = none := by
    intro x hx
    have hmem : x.call ∈ event.finalCalls setup element vars := hlog.subset (List.mem_map_of_mem hx)
    rw [finalCalls] at hmem
    rcases x with ⟨c, reply⟩
    cases c with
    | value _ | text _ =>
      simp only [List.mem_flatten, List.mem_cons, List.not_mem_nil, or_false, exists_eq_or_imp,
        exists_eq_left, List.mem_map, reduceCtorEq, and_false, exists_false, false_or] at hmem
      rcases hmem with hmem | hmem <;> split at hmem <;> simp at hmem
    | _ => rfl
  have hnone : log.reverse.findSome? content? = none :=
    List.findSome?_eq_none_iff.2 fun x hx => hno x (List.mem_reverse.1 hx)
  rw [contentBy, contentBy, List.reverse_append, List.findSome?_append, hnone, Option.none_or]

end Event

/-! ## What an event does with its element -/

namespace Act

open Stretch

variable {s : Session} {plan : List Exchange → List Call} {Q : List Exchange → Session → Prop}
  {event : Event} {element : Element}

theorem plans_keep : Plans o setup (keep setup event element) s (fun _ => [])
    fun _ s' => s'.vars = s.vars ∧ s'.registry = s.registry := by
  refine plans_action? ?_
  cases event.filled? setup s.vars "store" with
  | none => exact plans_pure ⟨rfl, rfl⟩
  | some name =>
    have hstored : Plans o setup (edit (.store name element) >>= fun _ => pure ()) s (fun _ => [])
        fun _ s' => s'.vars = s.vars ∧ s'.registry = s.registry :=
      plans_edit _ (plans_pure ⟨rfl, rfl⟩)
    exact plans_say _ hstored

theorem plans_checkDisabled : Plans o setup (checkDisabled event element) s
    (fun _ => if (event.actions.flag? "disabled").isSome then [.isEnabled element] else [])
    (Kept s) := by
  unfold checkDisabled
  cases event.actions.flag? "disabled" with
  | none => exact plans_pure rfl
  | some expected =>
    refine plans_call (c := .isEnabled element) nofun fun enabled => ?_
    split
    · exact plans_say _ (plans_pure rfl)
    · exact plans_pure rfl

theorem plans_clear : Plans o setup (clear event element) s
    (fun _ => if event.actions.flag? "clear" = some true then [.clear element] else [])
    (Kept s) := by
  unfold clear
  by_cases hclear : event.actions.flag? "clear" = some true
  · simp only [hclear, beq_self_eq_true, if_true]
    exact plans_say _ (plans_last_call (c := .clear element) nofun bind_pure_unit fun _ => rfl)
  · simp only [hclear, beq_iff_eq, if_false]
    exact plans_pure rfl

theorem plans_click (hs : s.registry = []) :
    Plans o setup (click event element) s (fun _ => [.click element]) (Kept s) :=
  plans_aroundClick hs .before (plans_say _ (plans_call nofun fun _ =>
    plans_aroundClick hs .after (plans_pure rfl)))

/-- The answer to the question whether the element is selected, if it is asked, decides the rest, and
what is answered later does not matter. -/
theorem plans_set {earlier : List Exchange} (hs : s.registry = [])
    (hearlier : earlier.findSome? state? = none) :
    Plans o setup (set setup event element) s
      (fun log => event.setCalls setup element s.vars (selectedBy (earlier ++ log)))
      fun log s' => s' = s ∧ ∀ log',
        event.setCalls setup element s.vars (selectedBy (earlier ++ (log ++ log'))) =
          event.setCalls setup element s.vars (selectedBy (earlier ++ log)) := by
  have hselected (x : Bool) (log : List Exchange) :
      selectedBy (earlier ++ ⟨.isSelected element, some (.ok x)⟩ :: log) = x := by
    rw [selectedBy, List.findSome?_append, hearlier]
    rfl
  unfold set Event.setCalls
  cases event.actions.get? "set" with
  | none => exact plans_pure ⟨rfl, fun _ => rfl⟩
  | some value =>
    cases value with
    | flag wanted =>
      -- a radio button is never switched off, and a state is set only where it differs
      dsimp only
      unfold setState
      by_cases hradio : event.kind = .control .radio ∧ wanted = false
      · simp only [hradio, and_self, beq_self_eq_true, Bool.not_false, Bool.and_self, if_true]
        exact plans_say _ (plans_pure ⟨rfl, fun _ => trivial⟩)
      · have hno : (event.kind == .control .radio && !wanted) = false := by
          simpa using hradio
        simp only [hradio, hno, if_false]
        refine plans_call (c := .isSelected element) nofun fun actual => ?_
        simp only [List.cons_append, hselected]
        by_cases hsame : wanted = actual
        · simp only [hsame, beq_self_eq_true, if_true]
          exact plans_say _ (plans_pure ⟨rfl, fun _ => trivial⟩)
        · simp only [hsame, beq_iff_eq, if_false]
          exact plans_say _ ((plans_click hs).congr (fun _ _ => rfl) fun _ _ h _ => ⟨h, by simp⟩)
    | text raw =>
      refine plans_fill ?_
      by_cases hselect : event.kind = .control .select
      · simp only [hselect, beq_self_eq_true, if_true]
        exact plans_say _ (plans_last_call (c := .selectOption element _) nofun bind_pure_unit
          fun _ => ⟨rfl, by simp⟩)
      · simp only [hselect, beq_iff_eq, if_false]
        exact plans_say _ (plans_last_call (c := .setValue element _) nofun bind_pure_unit
          fun _ => ⟨rfl, by simp⟩)

/-- Something is asked of the element with the text of an action, if the event has it. -/
theorem plans_filled {name : String} {f : Option String → Act Unit} {c : String → Call}
    (hsome : ∀ text, Plans o setup (f (some text)) s (fun _ => [c text]) (Kept s))
    (hnone : f none = pure ()) :
    Plans o setup (action? setup event name >>= f) s
      (fun _ => (event.filled? setup s.vars name).toList.map c) (Kept s) := by
  refine plans_action? ?_
  cases event.filled? setup s.vars name with
  | none =>
    rw [hnone]
    exact plans_pure rfl
  | some text => exact hsome text

theorem plans_selectValue : Plans o setup (selectValue setup event element) s
    (fun _ => (event.filled? setup s.vars "setreal").toList.map
      fun value => .selectOption element (.value value)) (Kept s) :=
  plans_filled (fun _ => plans_say _
    (plans_last_call (c := .selectOption element _) nofun bind_pure_unit fun _ => rfl)) rfl

theorem plans_append : Plans o setup (append setup event element) s
    (fun _ => (event.filled? setup s.vars "append").toList.map (.appendValue element ·)) (Kept s) :=
  plans_filled (fun _ => plans_say _
    (plans_last_call (c := .appendValue element _) nofun bind_pure_unit fun _ => rfl)) rfl

theorem plans_firePageEvent : Plans o setup (firePageEvent setup event element) s
    (fun _ => (event.filled? setup s.vars "jscriptevent").toList.map (.fireEvent element ·))
    (Kept s) :=
  plans_filled (fun _ => plans_say _
    (plans_last_call (c := .fireEvent element _) nofun bind_pure_unit fun _ => rfl)) rfl

/-- The element is read. -/
theorem plans_content {f : String → Act Unit}
    (h : ∀ text x, x.call = event.readCall element → x.content? = some text →
      Plans o setup (f text) s (fun _ => []) fun log => Q (x :: log)) :
    Plans o setup (content event.kind element >>= f) s (fun _ => [event.readCall element]) Q := by
  unfold content Event.readCall at *
  split
  · rename_i hvalue
    simp only [hvalue, if_true] at h
    exact plans_call (c := .value element) nofun fun text => h text _ rfl rfl
  · rename_i hvalue
    simp only [hvalue] at h
    exact plans_call (c := .text element) nofun fun text => h text _ rfl rfl

theorem plans_checkContent : Plans o setup (checkContent setup event element) s
    (fun _ => if (event.actions.text? "assert").isSome || (event.actions.text? "assertnot").isSome
      then [event.readCall element] else []) (Kept s) := by
  have hfilled (name : String) :
      (event.filled? setup s.vars name).isSome = (event.actions.text? name).isSome :=
    Option.isSome_map
  refine plans_action? (plans_action? ?_)
  rw [hfilled, hfilled]
  split
  · refine plans_content fun text x _ _ => ?_
    have hsaid (r : Remark) : Plans o setup (say r) s (fun _ => []) (Kept s) := by
      rw [← bind_pure_unit (x := say r)]
      exact plans_say r (plans_pure rfl)
    unfold check
    cases event.filled? setup s.vars "assert" <;> cases event.filled? setup s.vars "assertnot"
    · exact plans_pure rfl
    · exact hsaid _
    · exact plans_say _ (plans_pure rfl)
    · exact plans_say _ (hsaid _)
  · exact plans_pure rfl

theorem plans_maybeClick (hs : s.registry = []) : Plans o setup (maybeClick event element) s
    (fun _ => if event.actions.flag? "click" = some true then [.click element] else [])
    (Kept s) := by
  unfold maybeClick
  by_cases hclick : event.actions.flag? "click" = some true
  · simp only [hclick, beq_self_eq_true, if_true]
    exact plans_click hs
  · simp only [hclick, beq_iff_eq, if_false]
    exact plans_pure rfl

/-- That there is no alert does not end the event. -/
theorem plans_answer {c : Call} {f : Except BrowserError c.Answer → Act Unit}
    (hc : c.AnswersAlert) (hsay : ∀ x, ComesOff ⟨c, some x⟩ → ∃ r, f x = say r)
    (hfails : ∀ e, e ≠ .noAlert → f (.error e) = fail (.ofBrowser e)) :
    Plans o setup (attempt c >>= f) s (fun _ => [c]) (Kept s) := by
  refine plans_attempt (fun x hoff => ?_) fun e hno => ?_
  · obtain ⟨r, hr⟩ := hsay x hoff
    rw [hr, ← bind_pure_unit (x := say r)]
    exact plans_say r (plans_pure rfl)
  · refine hfails e fun he => hno ?_
    rw [he]
    exact .noAlert hc

theorem plans_answerAlert : Plans o setup (answerAlert event) s
    (fun _ => match event.actions.flag? "alert" with
      | some true => [.acceptAlert]
      | some false => [.dismissAlert]
      | none => []) (Kept s) := by
  have hsay (accepted : Bool) : ∀ x, (x = .ok () ∨ x = .error .noAlert) →
      ∃ r, tellAnswer accepted x = say r := by
    rintro _ (rfl | rfl)
    · exact ⟨_, rfl⟩
    · exact ⟨_, rfl⟩
  have hfails (accepted : Bool) : ∀ e, e ≠ BrowserError.noAlert →
      tellAnswer accepted (.error e) = fail (.ofBrowser e) := by
    intro e he
    cases e with
    | noAlert => exact absurd rfl he
    | _ => rfl
  unfold answerAlert
  cases event.actions.flag? "alert" with
  | none => exact plans_pure rfl
  | some accepted =>
    cases accepted with
    | true =>
      refine plans_answer .accept (fun x hoff => hsay true x ?_) (hfails true)
      cases hoff with
      | answered _ => exact .inl rfl
      | noAlert _ => exact .inr rfl
    | false =>
      refine plans_answer .dismiss (fun x hoff => hsay false x ?_) (hfails false)
      cases hoff with
      | answered _ => exact .inl rfl
      | noAlert _ => exact .inr rfl

/-- What comes after the variable is planned with the variables as they are then. -/
theorem plans_finalCalls (hs : s.registry = []) :
    Plans o setup (do
      firePageEvent setup event element
      maybeClick event element
      answerAlert event) s (fun _ => event.finalCalls setup element s.vars) (Kept s) := by
  refine plans_firePageEvent.then (fun _ _ _ _ => rfl) fun _ s₁ _ hs₁ => ?_
  subst hs₁
  refine (plans_maybeClick hs).then (fun _ _ _ _ => rfl) fun _ s₂ _ hs₂ => ?_
  subst hs₂
  simp only [List.flatten_cons, List.flatten_nil, List.append_nil]
  exact plans_answerAlert

/-- The element is read into a variable, and what comes after it sees the variable. -/
theorem plans_reading (earlier : List Exchange) (hs : s.registry = []) :
    Plans o setup (do
      readContent setup event element
      firePageEvent setup event element
      maybeClick event element
      answerAlert event) s
      (fun log => (if (event.actions.text? "var").isSome then [event.readCall element] else []) ++
        event.finalCalls setup element (event.varsAfter setup s.vars (earlier ++ log)))
      fun _ _ => True := by
  have hread : Plans o setup (readContent setup event element) s
      (fun _ => if (event.actions.text? "var").isSome then [event.readCall element] else [])
      fun log s' => s'.registry = [] ∧ s'.vars = event.varsAfter setup s.vars (earlier ++ log) := by
    have hfilled : (event.filled? setup s.vars "var").isSome = (event.actions.text? "var").isSome :=
      Option.isSome_map
    refine plans_action? ?_
    rw [← hfilled]
    unfold Event.varsAfter
    cases event.filled? setup s.vars "var" with
    | none => exact plans_pure ⟨hs, rfl⟩
    | some name =>
      refine plans_content fun text x _ hx => plans_say _ ?_
      have hlast : contentBy (earlier ++ [x]) = text := by
        rw [contentBy, List.reverse_append]
        simp [hx]
      rw [← bind_pure_unit (x := edit _)]
      refine plans_edit _ (plans_pure ⟨hs, ?_⟩)
      rw [hlast]
      rfl
  refine hread.then (fun _ _ _ _ => rfl) fun log s' _ hs' => ?_
  have hvars (log' : List Exchange)
      (hlog' : log'.map (·.call) <+: event.finalCalls setup element s'.vars) :
      event.varsAfter setup s.vars (earlier ++ (log ++ log')) = s'.vars := by
    rw [hs'.2, Event.varsAfter, Event.varsAfter, ← List.append_assoc,
      Event.contentBy_finalCalls hlog']
  refine (plans_finalCalls hs'.1).congr (fun log' hlog' => ?_) fun _ _ _ _ => trivial
  rw [hvars log' hlog']

/-- Everything that comes after the element has been set. -/
theorem plans_checking (earlier : List Exchange) (hs : s.registry = []) :
    Plans o setup (do
      selectValue setup event element
      append setup event element
      checkContent setup event element
      readContent setup event element
      firePageEvent setup event element
      maybeClick event element
      answerAlert event) s
      (fun log => List.flatten [
        (event.filled? setup s.vars "setreal").toList.map
          fun value => .selectOption element (.value value),
        (event.filled? setup s.vars "append").toList.map (.appendValue element ·),
        if (event.actions.text? "assert").isSome || (event.actions.text? "assertnot").isSome then
          [event.readCall element] else [],
        if (event.actions.text? "var").isSome then [event.readCall element] else [],
        event.finalCalls setup element (event.varsAfter setup s.vars (earlier ++ log))])
      fun _ _ => True := by
  refine plans_selectValue.then (fun _ _ _ _ => rfl) fun log₁ s₁ _ hs₁ => ?_
  subst hs₁
  refine plans_append.then (fun _ _ _ _ => rfl) fun log₂ s₂ _ hs₂ => ?_
  subst hs₂
  refine plans_checkContent.then (fun _ _ _ _ => rfl) fun log₃ s₃ _ hs₃ => ?_
  subst hs₃
  simpa only [List.flatten_cons, List.flatten_nil, List.append_nil, List.append_assoc] using
    plans_reading (earlier ++ log₁ ++ log₂ ++ log₃) hs

/-- **What an event does with its element is planned.** -/
theorem plans_actOn (hs : s.registry = []) :
    Plans o setup (actOn setup event element) s (event.plan setup element s.vars)
      fun _ _ => True := by
  show Plans o setup (actOn setup event element) s
    (fun log => [] ++ event.plan setup element s.vars log) fun _ _ => True
  refine plans_keep.then (fun _ _ _ _ => rfl) ?_
  rintro log₁ s₁ hlog₁ ⟨hvars, hregistry⟩
  rw [← hvars]
  refine plans_checkDisabled.then (fun _ _ _ _ => rfl) fun log₂ s₂ hlog₂ hs₂ => ?_
  subst hs₂
  refine plans_clear.then (fun _ _ _ _ => rfl) fun log₃ s₃ hlog₃ hs₃ => ?_
  subst hs₃
  -- up to here nothing has been asked about a selection
  have hearlier : (log₁ ++ (log₂ ++ log₃)).findSome? state? = none := by
    refine List.findSome?_eq_none_iff.2 fun x hx => ?_
    have hmem : x.call ∈ (log₁ ++ (log₂ ++ log₃)).map (·.call) := List.mem_map_of_mem hx
    rw [List.map_append, List.map_append, hlog₁, hlog₂, hlog₃, List.nil_append] at hmem
    rcases x with ⟨c, reply⟩
    cases c with
    | isSelected _ =>
      rcases List.mem_append.1 hmem with hmem | hmem <;> split at hmem <;> simp at hmem
    | _ => rfl
  have hplain : s₃.registry = [] := hregistry.trans hs
  simp only [← List.append_assoc] at hearlier ⊢
  refine (plans_set hplain hearlier).then (fun log s' log' h => h.2 log') fun log₄ s₄ _ hs₄ => ?_
  rw [hs₄.1]
  simpa only [List.append_assoc] using
    plans_checking (log₁ ++ (log₂ ++ (log₃ ++ log₄))) hplain

end Act

/-! ## Whole events -/

/-- What an event on an element comes to, and the calls that it makes. -/
inductive Event.Performs (setup : Setup) (event : Event) (parent : Option Element) (vars : Vars)
    (stopped : Bool) : List Exchange → Except Mishap Element → Prop where
  /-- The run has been stopped before the element is looked for. -/
  | unsought : stopped = true → Performs setup event parent vars stopped [] (.error .abort)
  /-- The run is stopped while the element is looked for. -/
  | givenUp : stopped = true → Performs setup event parent vars stopped
      [⟨.find (event.wanted setup vars) parent setup.elementPatience, none⟩] (.error .abort)
  /-- The element is not found. -/
  | unfound {e : BrowserError} {m : Mishap} : Performs setup event parent vars stopped
      [⟨.find (event.wanted setup vars) parent setup.elementPatience, some (.error e)⟩] (.error m)
  /-- The element is found, but there should be none. -/
  | unwanted {element : Element} : event.actions.flag? "exists" = some false →
      Performs setup event parent vars stopped
        [⟨.find (event.wanted setup vars) parent setup.elementPatience, some (.ok element)⟩]
        (.error .abort)
  /-- The element is found and acted on. -/
  | acted {element : Element} {log : List Exchange} {r : Except Mishap Unit} :
      event.actions.flag? "exists" ≠ some false →
      Fares (event.plan setup element vars log) stopped log r →
      Performs setup event parent vars stopped
        (⟨.find (event.wanted setup vars) parent setup.elementPatience, some (.ok element)⟩ :: log)
        (r.map fun _ => element)

namespace Act

open Stretch

variable {s : Session} {event : Event} {parent : Option Element} {w : World σ}

/-- **An event on an element does what is planned**, and that only. -/
theorem leads_element (hs : s.registry = []) (w : World σ) :
    Leads o ((element setup event parent).play setup) s w fun r _ w' =>
      ∃ log, w.Talks o log w' ∧ event.Performs setup parent s.vars w'.isStopped log r := by
  unfold element locate
  refine leads_play_bind _ _ |>.2 (leads_play_bind _ _ |>.2 (leads_selectors ?_))
  refine leads_play_bind _ _ |>.2 (leads_play_attempt ?_ ?_ ?_)
  · intro x w₁ hexchanges
    cases x with
    | error e =>
      have hunfound (m : Mishap) (w' : World σ) (hquiet : w₁.Quiet w') : ∃ log, w.Talks o log w' ∧
          event.Performs setup parent s.vars w'.isStopped log (.error m) :=
        ⟨_, hexchanges.talks.trans (.nil hquiet), .unfound⟩
      cases e with
      | noSuchElement description =>
        refine leads_play_bind _ _ |>.2 ?_
        unfold tellMissing
        split <;> exact leads_play_say _ |>.2 (leads_play_fail _ |>.2
          (hunfound .abort _ (w₁.quiet_tell _)))
      | _ => exact leads_play_fail _ |>.2 (hunfound _ _ (.refl w₁))
    | ok element =>
      dsimp only
      split
      · rename_i hexists
        refine leads_play_bind _ _ |>.2 (leads_play_say _ |>.2 (leads_play_fail _ |>.2 ?_))
        exact ⟨_, hexchanges.talks.trans (.nil (w₁.quiet_tell _)), .unwanted (eq_of_beq hexists)⟩
      · rename_i hexists
        refine leads_play_pure _ |>.2 (leads_play_bind _ _ |>.2 ((plans_actOn hs w₁).mono ?_))
        rintro r s' w' ⟨log, htalks, hfares, -⟩
        have hacted : event.Performs setup parent s.vars w'.isStopped _ (r.map fun _ => element) :=
          .acted (fun h => hexists (beq_iff_eq.2 h)) hfares
        cases r with
        | ok _ => exact leads_play_pure _ |>.2 ⟨_, hexchanges.talks.trans htalks, hacted⟩
        | error m => exact ⟨_, hexchanges.talks.trans htalks, hacted⟩
  · exact fun w' hstop hexchanges => ⟨_, hexchanges.talks, .givenUp hstop⟩
  · exact fun hstop => ⟨[], .nil (.refl w), .unsought hstop⟩

end Act

/-- What an event on an element leaves. -/
def Event.opened (r : Except Mishap Element) : Except Mishap Opened :=
  r.map fun element => { element := some element }

theorem Passage.leads_carryOut_element {event : Event} {parent : Option Element} {s : Session}
    (hcan : event.kind.can .needsElement = true) (hs : s.registry = []) (w : World σ) :
    Stretch.Leads o (carryOut setup event parent).run s w fun result _ w' => ∃ log r,
      w.Talks o log w' ∧ event.Performs setup parent s.vars w'.isStopped log r ∧
      result = Event.opened r := by
  have hopened : Stretch.Leads o (ExceptT.run (do
      return { element := some (← act setup (Act.element setup event parent)) } : Passage Opened))
      s w fun result _ w' => ∃ log r, w.Talks o log w' ∧
        event.Performs setup parent s.vars w'.isStopped log r ∧ result = Event.opened r := by
    refine Stretch.leads_run_bind _ _ |>.2 (Stretch.Leads.mono (Act.leads_element hs w) ?_)
    rintro r s' w' ⟨log, htalks, hperforms⟩
    cases r with
    | error m => exact ⟨log, _, htalks, hperforms, rfl⟩
    | ok element => exact Stretch.leads_run_pure _ |>.2 ⟨log, _, htalks, hperforms, rfl⟩
  unfold carryOut
  cases hkind : event.kind with
  | markup _ | control _ => exact hopened
  | command c =>
    rw [hkind] at hcan
    cases c <;> cases hcan
  | frame =>
    rw [hkind] at hcan
    cases hcan

/-! ## Runs -/

section Tours

open Stretch

variable {m m' : Moment σ} {stays : List (Stay σ)} {r : Except Error Unit}

/-- Where no plugins are active at first, none are on the way. -/
def Tour.Unplugged (m : Moment σ) (stays : List (Stay σ)) (_ : Except Error Unit)
    (m' : Moment σ) : Prop :=
  m.session.registry = [] → m'.session.registry = [] ∧
    ∀ stay ∈ Stay.allOf stays, stay.before.session.registry = []

theorem Stretch.Plain.comes {p : Stretch α} {a : α} (hp : Plain p) (h : Comes o p m a m')
    (hm : m.session.registry = []) : m'.session.registry = [] :=
  lands_iff h |>.1 (hp.lands hm)

theorem spans_unplugged (hplugins : setup.plugins = []) :
    Tour.Spans setup o Tour.Unplugged where
  refl _ hm := ⟨hm, Stay.forall_allOf_nil⟩
  trans here later _ _ hm := by
    obtain ⟨hm₁, hhere⟩ := here hm
    obtain ⟨hm', hlater⟩ := later hm₁
    exact ⟨hm', Stay.forall_allOf_append.2 ⟨hhere, hlater⟩⟩
  skips _ hm := ⟨hm, Stay.forall_allOf_nil⟩
  row _ _ h hm := h hm
  halts h hreport hm := ⟨(Journey.plain_report _ _).comes hreport (h hm).1, (h hm).2⟩
  finishes hopen _ h hsettle hfinish hm := by
    obtain ⟨hdone, hwithin⟩ := h ((Passage.plain_openEvent hplugins _ _).comes hopen hm)
    have hleft := (Journey.plain_settle hplugins _ _).comes hsettle hdone
    exact ⟨(Journey.plain_finish _ _).comes hfinish hleft,
      Stay.forall_allOf_singleton.2 ⟨hm, hwithin⟩⟩
  loses hopen _ h hsettle hm := by
    obtain ⟨hdone, hwithin⟩ := h ((Passage.plain_openEvent hplugins _ _).comes hopen hm)
    exact ⟨(Journey.plain_settle hplugins _ _).comes hsettle hdone,
      Stay.forall_allOf_singleton.2 ⟨hm, hwithin⟩⟩
  unwinds hopen _ h hm := by
    obtain ⟨hm', hwithin⟩ := h ((Passage.plain_openEvent hplugins _ _).comes hopen hm)
    exact ⟨hm', Stay.forall_allOf_singleton.2 ⟨hm, hwithin⟩⟩

end Tours

namespace Stay

/-- An event acts on its element as planned; `made` are the calls made once it has been found. -/
structure ActsOn (setup : Setup) (stay : Stay σ) (element : Element) (made : List Exchange)
    (done : World σ) : Prop where
  /-- The calls are the first ones of the plan. -/
  begins : made.map (·.call) <+: stay.event.plan setup element stay.before.session.vars made
  /-- The event succeeds if and only if the plan is carried out as a whole. -/
  succeeds : (∃ opened, stay.visit.result = .ok opened) ↔
    Whole (stay.event.plan setup element stay.before.session.vars made) made
  /-- So it is unless a call fails or the run has been stopped. -/
  whole : done.isStopped = false → (∀ x ∈ made, x.ComesOff) →
    Whole (stay.event.plan setup element stay.before.session.vars made) made
  /-- Only then do the children run. -/
  children : stay.within ≠ [] →
    Whole (stay.event.plan setup element stay.before.session.vars made) made

/-- What becomes of an event on an element; `log` are all the calls that it makes itself, and `done` is
the world in which it has been carried out. -/
structure Performs (setup : Setup) (o : Outside σ) (stay : Stay σ) (log : List Exchange)
    (done : World σ) : Prop where
  told : stay.carried.world = done.tell (.stage (.carriedOut stay.event stay.visit.result))
  talks : (stay.before.starting stay.event stay.visit.parent).world.Talks o log done
  /-- The history tells of these calls and no others. -/
  calls_eq : calls stay.carried.world.history =
    calls stay.before.world.history ++ log.map (·.call)
  /-- What comes first is to look for the element. -/
  seeks : ∀ x ∈ log.head?, x.call = .find (stay.event.wanted setup stay.before.session.vars)
    stay.visit.parent setup.elementPatience
  /-- Where it is found, the event acts on it. -/
  acts : ∀ {wanted parent patience element made},
    log = ⟨.find wanted parent patience, some (.ok element)⟩ :: made →
    stay.event.actions.flag? "exists" ≠ some false → stay.ActsOn setup element made done
  /-- Where there should be none, the event does nothing with it. -/
  spares : ∀ {wanted parent patience element made},
    log = ⟨.find wanted parent patience, some (.ok element)⟩ :: made →
    stay.event.actions.flag? "exists" = some false →
    made = [] ∧ stay.visit.result = .error .abort ∧ stay.within = []

end Stay

section Tours

open Stretch

variable {m m' : Moment σ} {stays : List (Stay σ)} {leg : Leg} {r : Except Error Unit}

/-- What a stay in an event on an element is like, given what the event comes to. -/
theorem Event.Performs.stay {stay : Stay σ} {log : List Exchange} {done : World σ}
    {result : Except Mishap Element}
    (h : stay.event.Performs setup stay.visit.parent stay.before.session.vars done.isStopped log
      result)
    (hresult : stay.visit.result = Event.opened result)
    (htold : stay.carried.world = done.tell (.stage (.carriedOut stay.event stay.visit.result)))
    (htalks : (stay.before.starting stay.event stay.visit.parent).world.Talks o log done)
    (hwithin : ∀ mishap, stay.visit.result = .error mishap → stay.within = []) :
    stay.Performs setup o log done := by
  refine ⟨htold, htalks, ?_, ?_, ?_, ?_⟩
  · have hcalls := htalks.calls_eq
    rw [htold]
    simpa [Moment.starting] using hcalls
  · rintro x hx
    cases h <;> cases hx <;> rfl
  · intro wanted parent patience element made hlog hexists
    cases h with
    | unsought _ | givenUp _ | unfound => cases hlog
    | unwanted hunwanted => exact absurd hunwanted hexists
    | @acted element' log' r' _ hfares =>
      cases hlog
      have hsucceeds : (∃ opened, stay.visit.result = .ok opened) ↔ r' = .ok () := by
        rw [hresult]
        cases r' with
        | ok _ => exact ⟨fun _ => rfl, fun _ => ⟨_, rfl⟩⟩
        | error _ => exact ⟨nofun, nofun⟩
      refine ⟨hfares.prefix_plan, hsucceeds.trans hfares.ok_iff, hfares.whole_of_goes, fun hinner => ?_⟩
      refine hfares.ok_iff.1 (hsucceeds.1 ?_)
      cases hfailed : stay.visit.result with
      | ok opened => exact ⟨opened, rfl⟩
      | error mishap => exact absurd (hwithin mishap hfailed) hinner
  · intro wanted parent patience element made hlog hexists
    cases h with
    | unsought _ | givenUp _ | unfound => cases hlog
    | unwanted hunwanted =>
      cases hlog
      exact ⟨rfl, hresult, hwithin _ hresult⟩
    | acted hno _ => exact absurd hexists hno

theorem Tour.performs (hplugins : setup.plugins = []) (h : Tour setup o leg m stays r m')
    (hm : m.session.registry = []) {stay : Stay σ} (hmem : stay ∈ Stay.allOf stays)
    (hcan : stay.event.kind.can .needsElement = true) :
    ∃ log done, stay.Performs setup o log done := by
  have hs := (h.spans (spans_unplugged hplugins) hm).2 stay hmem
  obtain ⟨done, htold, hcarried⟩ := comes_carryOut (h.opens hmem)
  obtain ⟨log, result, htalks, hperforms, hresult⟩ := hcarried.of_leads
    (Passage.leads_carryOut_element hcan hs _)
  exact ⟨log, done, hperforms.stay hresult htold htalks fun _ => h.within_of_error hmem⟩

end Tours

section Runs

variable {calendar : Calendar} {stopAt : Option Duration} {events : List Event} {outside : σ}
  {ended : Ended σ}

/-- **Elements are acted on as planned.** The calls that an event makes of its element are the first
ones of the plan; they are all of it, and come off, if and only if the event succeeds, which it does
unless one of them fails or the run is stopped. Only then do its children run. An event that expects
that there is no such element does nothing with the one that it finds. -/
theorem performs_of_run (hplugins : setup.plugins = [])
    (hrun : setup.run o calendar stopAt events outside = some ended) :
    ∃ (course : Course setup o calendar stopAt events outside ended) (stays : List (Stay σ)),
      Toured course stays ∧ ∀ stay ∈ Stay.allOf stays,
        stay.event.kind.can .needsElement = true → ∃ log done, stay.Performs setup o log done := by
  obtain ⟨course⟩ := exists_course hrun
  obtain ⟨stays, htoured⟩ := course.toured
  obtain ⟨begun, hbegun, htour⟩ := htoured.tour
  have hregistry : begun.session.registry = [] :=
    Journey.plain_begin.comes hbegun (Setup.registry_session hplugins calendar)
  exact ⟨course, stays, htoured, fun stay hmem hcan =>
    htour.performs hplugins hregistry hmem hcan⟩

/-- An outside with one window, in which each element is a field that shows a word; no alert is open. -/
def Outside.oneField : Outside Unit
  | .call .currentWindow, s => .answer s (.ok "main")
  | .call (.find ..), s => .answer s (.ok ⟨"field", "input"⟩)
  | .call (.value _), s => .answer s (.ok "change")
  | .call (.fireEvent ..), s => .answer s (.ok ())
  | .call .acceptAlert, s => .answer s (.error .noAlert)
  | _, s => { start := s, ending := none }

/-- An event that reads its element into a variable, and names an event of the page by it. -/
def readingEvents : List Event :=
  [{ kind := .control .textfield, name := "textfield", actions := ⟨[("alert", .flag true),
      ("jscriptevent", .text "on\x7b@kind\x7d"), ("var", .text "kind")]⟩ }]

theorem performs_readingRun : ∃ ended, Setup.small.run .oneField ⟨2020, 1, 1, 0, 0, 0⟩ none
      readingEvents () = some ended ∧
    Setup.small.plugins = [] ∧
    calls ended.world.history = [.currentWindow, .find [] none (.ofSecs 1), .value ⟨"field", "input"⟩,
      .fireEvent ⟨"field", "input"⟩ "onchange", .acceptAlert] ∧
    ∃ (course : Course .small .oneField ⟨2020, 1, 1, 0, 0, 0⟩ none readingEvents () ended)
      (stays : List (Stay Unit)), Toured course stays ∧ ∀ stay ∈ Stay.allOf stays,
        stay.event.kind.can .needsElement = true →
          ∃ log done, stay.Performs .small .oneField log done := by
  have hshown : (Setup.small.run .oneField ⟨2020, 1, 1, 0, 0, 0⟩ none readingEvents ()).map
      (fun ended => calls ended.world.history) = some [.currentWindow, .find [] none (.ofSecs 1),
        .value ⟨"field", "input"⟩, .fireEvent ⟨"field", "input"⟩ "onchange", .acceptAlert] := by
    decide +kernel
  obtain ⟨ended, hrun, hcalls⟩ := Option.map_eq_some_iff.1 hshown
  exact ⟨ended, hrun, rfl, hcalls, performs_of_run rfl hrun⟩

/-- An event that is to click its element but expects that there is none. -/
def unwantedEvent : Event :=
  { kind := .markup .div, name := "div",
    actions := ⟨[("exists", .flag false), ("click", .flag true)]⟩ }

/-- **An element that should not be there is not acted on**, though a click is planned and nothing fails:
no call has failed, the run is not stopped, and the event has failed. -/
theorem unclicked_unwantedEvent :
    unwantedEvent.plan .small ⟨"field", "input"⟩ {} [] = [.click ⟨"field", "input"⟩] ∧
    (Setup.small.run .oneField ⟨2020, 1, 1, 0, 0, 0⟩ none [unwantedEvent] ()).map (fun ended =>
        (ended.world.isStopped, calls ended.world.history,
          (results ended.world.history).map fun x => x.2.toBool)) =
      some (false, [.currentWindow, .find [] none (.ofSecs 1)], [false]) := by
  constructor
  · rfl
  · decide +kernel

end Runs
end PageScript
