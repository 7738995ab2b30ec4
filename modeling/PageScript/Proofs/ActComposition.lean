import PageScript.Proofs.ContextShifts

/-!
# How acts are put together

All that events do is put together from few things: remarks, edits of what the run remembers, texts
with variables put in, looks at whether a variable is bound and at something else that is remembered,
calls of the browser, and what is asked of the outside besides. Most of these are only for some kinds
of events: an event for an element may click it, one for a frame may switch to it, few may change the
window in use, one kind runs programs, one runs a plugin by itself, and only two have to rest.

`Act.Composed` has one rule for each of these things and one for doing one after another. A rule says
which kinds of events it is for, and what comes of an answer that is a failure: it ends the event,
unless it is one of few that an event deals with itself. Each command is taken apart only here. What
holds of each of these things, and of one after another if it holds of both, holds of everything that
an event does.
-/

namespace PageScript

/-! ## What the kinds of events are for -/

namespace Kind

/-- An event may fail with an error of any kind that a plugin or a loader has answered with. -/
def PassesOn (kind : Kind) : Prop :=
  kind = .command .javaplugin ∨ kind = .command .script

/-- Events that look for an element of the page. -/
def Locates (kind : Kind) : Prop :=
  kind = .frame ∨ kind.can .needsElement = true

/-- Events that sleep, which the watchdog has been told of. -/
def Rests (kind : Kind) : Prop :=
  kind = .command .wait ∨ kind = .command .attach

end Kind

/-- A kind of events that may do what restores the context, and no more than that. -/
def Restore.kind : Restore → Kind
  | .nothing => .command .arg
  | .defaultContent => .frame
  | .window _ => .command .browser

theorem Restore.shift?_kind (r : Restore) : r.kind.shift? = r.shift? := by
  cases r <;> rfl

/-- A failure of the browser that an event may deal with itself. -/
def BrowserError.IsMinor : BrowserError → Prop
  | .noAlert | .noSuchFrame _ => True
  | _ => False

/-- A remark that does not report the loss of the browser. -/
def Remark.Tame (r : Remark) : Prop :=
  ∀ e, r ≠ .exception "Browser session lost" e

theorem Remark.tame_exception {message : String} (h : message ≠ "Browser session lost")
    (e : Error) : (Remark.exception message e).Tame := by
  intro e' heq
  injection heq with heq
  injection heq with heq
  exact h heq

/-- Whether a call is for events of a kind. To look for an element and to click it is no matter of a
single call. -/
def Call.Suits (kind : Kind) : Call → Prop
  | .find .. | .click _ => False
  | .switchToFrame _ | .switchToDefaultContent => kind = .frame
  | .switchToWindow _ | .close => kind.shift? = some .window
  | .dragAndDrop .. => kind = .command .dnd
  | .text _ | .value _ | .setValue .. | .appendValue .. | .clear _ | .isSelected _ | .isEnabled _
  | .selectOption .. | .fireEvent .. => kind.can .needsElement = true
  | .windowHandles | .currentWindow | .title | .currentUrl | .navigate _ | .back | .forward
  | .refresh | .pageSource | .executeScript _ | .screenshot | .alertText | .acceptAlert
  | .dismissAlert => True

/-- Whether it is for events of a kind to ask for a file or a program. -/
def Action.Suits (kind : Kind) : Action → Prop
  | .readFile _ => kind = .command .csv ∨ kind = .command .javascript
  | .writeFile .. => kind = .command .savehtml ∨ kind = .command .screenshot
  | .runProcess _ => kind = .command .execute
  | .call _ | .loadScript _ => False

/-- Whether an edit is for events of a kind. Which plugin is made active is a matter of its own. -/
def Edit.Suits (kind : Kind) : Edit → Prop
  | .activate _ => False
  | .store .. => kind.can .needsElement = true
  | .setWindow _ => kind.shift? = some .window
  | .setPendingTable _ => kind = .command .csv
  | .putVar .. | .eraseVar _ | .passOver .. | .heed _ => True

/-- Whether a move that is answered at once, and looks at nothing that the run remembers, is for events
of a kind. -/
def Move.Suits (kind : Kind) : Move → Prop
  | .say r => r.Tame
  | .now | .calendar => True
  | .edit e => e.Suits kind
  | .step _ | .session | .aroundClick .. | .plugin .. => False

namespace Act

variable {α β : Type} {setup : Setup} {event : Event} {kind : Kind}

/-- Put together from what events of a kind may do. -/
inductive Composed (setup : Setup) (event : Event) (kind : Kind) : {α : Type} → Act α → Prop where
  | pure {α : Type} (a : α) : Composed setup event kind (pure a)
  /-- Only an event that has no element fails for itself. -/
  | fault {α : Type} {e : Error} : e ≠ .scopeUnderflow → kind.can .needsElement = false →
      Composed setup event kind (fail (.fault e) : Act α)
  | bind {α β : Type} {a : Act β} {f : β → Act α} : Composed setup event kind a →
      (∀ b, Composed setup event kind (f b)) → Composed setup event kind (a >>= f)
  | move {m : Move} : m.Suits kind → Composed setup event kind (move m)
  /-- A text is filled in. -/
  | fill (raw : String) : Composed setup event kind (fill setup raw)
  /-- It matters whether a variable is bound. -/
  | bound {α : Type} (name : String) {f : Bool → Act α} : (∀ b, Composed setup event kind (f b)) →
      Composed setup event kind (session >>= fun s => f (s.vars.contains name))
  /-- Something matters that the run remembers besides the variables; elements only where one is
  dragged onto another. -/
  | remembered {α : Type} {f : Session → Act α} : (∀ s vars, f { s with vars } = f s) →
      (kind ≠ .command .dnd → ∀ s stored, f { s with stored } = f s) →
      (∀ s, Composed setup event kind (f s)) → Composed setup event kind (session >>= f)
  /-- The browser is called. A failure ends the event, unless it is one that the event deals with. -/
  | asked {α : Type} {c : Call} {f : Except BrowserError c.Answer → Act α} : c.Suits kind →
      (∀ e, f (.error e) ≠ fail (.ofBrowser e) → e.IsMinor) →
      (∀ x, Composed setup event kind (f (.ok x))) →
      (∀ e, f (.error e) ≠ fail (.ofBrowser e) → Composed setup event kind (f (.error e))) →
      Composed setup event kind (attempt c >>= f)
  /-- An element is looked for. The event is over without it. -/
  | sought {α : Type} {wanted : List (String × String)} {parent : Option Element}
      {patience : Duration} {f : Except BrowserError Element → Act α} : kind.Locates →
      (∀ description, f (.error (.noSuchElement description)) =
        (tellMissing event description >>= fun _ => fail .abort)) →
      (∀ e, (∀ description, e ≠ .noSuchElement description) → f (.error e) = fail (.ofBrowser e)) →
      (∀ x, Composed setup event kind (f (.ok x))) →
      Composed setup event kind (attempt (.find wanted parent patience) >>= f)
  | click (element : Element) : kind.can .needsElement = true →
      Composed setup event kind (click event element)
  | performed {a : Action} : a.Suits kind → Composed setup event kind (perform a)
  /-- A script is loaded. What the loader turns down is passed on. -/
  | loaded {α : Type} {path : String} {f : Except Error (List Event) → Act α} :
      kind = .command .script → (∀ e, f (.error e) = fail (.ofError e)) →
      (∀ events, Composed setup event kind (f (.ok events))) →
      Composed setup event kind (Act.perform (.loadScript path) >>= f)
  /-- A plugin of the catalog is run, and its failure is passed on. -/
  | plugin {α : Type} {r : Registration} {element : Option Element} {args : List String}
      {f : Except Cut (Except Error Unit) → Act α} : kind = .command .javaplugin →
      r ∈ Configured.catalog setup.plugins → (∀ cut, f (.error cut) = fail .abort) →
      (∀ e, f (.ok (.error e)) = fail (.ofError e)) →
      Composed setup event kind (f (.ok (.ok ()))) →
      Composed setup event kind (Act.move (.plugin r.plugin element args) >>= f)
  /-- A plugin of the catalog is made active. -/
  | activate {r : Registration} : kind = .command .pluginloader →
      r ∈ Configured.catalog setup.plugins → Composed setup event kind (edit (.activate r))
  /-- The event is over once an error has been told; an event on an element is so only where its
  element is not wanted. -/
  | told {α : Type} (message : String) {a : Act α} :
      (kind.can .needsElement = true → event.actions.flag? "exists" = some false) →
      a = fail .abort → Composed setup event kind (error message >>= fun _ => a)
  | rest {d : Duration} : kind.Rests → Composed setup event kind (step (.sleep d))

/-! ## What all events make use of -/

section Basic

theorem composed_say {r : Remark} (h : r.Tame) : (say r).Composed setup event kind :=
  .move (m := .say r) h

theorem composed_log (message : String) : (log message).Composed setup event kind :=
  composed_say fun _ heq => by cases heq

theorem composed_warn (message : String) : (warn message).Composed setup event kind :=
  composed_say fun _ heq => by cases heq

theorem composed_error (message : String) : (error message).Composed setup event kind :=
  composed_say fun _ heq => by cases heq

theorem composed_note (level : Level) (topic : Topic) (message : String)
    (fields : List (String × String)) : (note level topic message fields).Composed setup event kind :=
  composed_say fun _ heq => by cases heq

theorem composed_edit {e : Edit} (h : e.Suits kind) : (edit e).Composed setup event kind :=
  .move (m := .edit e) h

theorem composed_call {c : Call} (h : c.Suits kind) : (call c).Composed setup event kind :=
  .asked h (fun _ hne => absurd rfl hne) (fun x => .pure x) fun _ hne => absurd rfl hne

/-- Something is told, and the browser is called. -/
theorem composed_said {c : Call} (message : String) (h : c.Suits kind) :
    (log message >>= fun _ => call c).Composed setup event kind :=
  .bind (composed_log message) fun _ => composed_call h

theorem composed_fill? (raw : Option String) : (fill? setup raw).Composed setup event kind := by
  cases raw with
  | some raw => exact .bind (.fill raw) fun _ => .pure _
  | none => exact .pure _

theorem composed_action? (name : String) : (action? setup event name).Composed setup event kind :=
  composed_fill? _

/-- An action may be there or not. -/
theorem composed_action?_bind {name : String} {f : Option String → Act α}
    (hsome : ∀ text, (f (some text)).Composed setup event kind)
    (hnone : (f none).Composed setup event kind) :
    (action? setup event name >>= f).Composed setup event kind := by
  refine .bind (composed_action? name) fun text => ?_
  cases text with
  | some text => exact hsome text
  | none => exact hnone

theorem composed_mapM {f : α → Act β} (h : ∀ a, (f a).Composed setup event kind) (l : List α) :
    (l.mapM f).Composed setup event kind := by
  induction l with
  | nil => exact .pure []
  | cons a l ih =>
    rw [List.mapM_cons]
    exact .bind (h a) fun _ => .bind ih fun _ => .pure _

theorem composed_forM {f : α → Act Unit} (h : ∀ a, (f a).Composed setup event kind) (l : List α) :
    (l.forM f).Composed setup event kind := by
  induction l with
  | nil => exact .pure ()
  | cons a l ih => exact .bind (h a) fun _ => ih

theorem composed_arguments : (arguments setup event).Composed setup event kind :=
  composed_mapM .fill _

theorem composed_selectors : (selectors setup event).Composed setup event kind := by
  refine composed_mapM (fun p => ?_) _
  exact .bind (.fill p.2.written) fun _ => .pure _

theorem composed_when {c : Prop} [Decidable c] {a : Act Unit} (h : a.Composed setup event kind) :
    (if c then a else pure ()).Composed setup event kind := by
  split
  · exact h
  · exact .pure ()

theorem composed_check (expected unexpected : Option String) (text : String) :
    (check expected unexpected text).Composed setup event kind := by
  cases expected
  case' some => refine .bind (composed_say fun _ heq => by cases heq) fun _ => ?_
  all_goals cases unexpected with
  | none => exact .pure ()
  | some unexpected => exact composed_say fun _ heq => by cases heq

theorem composed_require (hkind : kind.can .needsElement = false) (name : String) :
    (require setup event name).Composed setup event kind :=
  composed_action?_bind .pure (.fault nofun hkind)

end Basic

/-! ## Elements and frames -/

section Elements

variable (element : Element) (parent : Option Element)

theorem composed_locate (hkind : kind.Locates) :
    (locate setup event parent).Composed setup event kind := by
  refine .bind composed_selectors fun wanted =>
    .sought hkind (fun _ => rfl) (fun e hne => ?_) fun found => ?_
  · cases e with
    | noSuchElement description => exact absurd rfl (hne description)
    | _ => rfl
  · dsimp only
    split
    · rename_i hunwanted
      exact .told _ (fun _ => eq_of_beq hunwanted) rfl
    · exact .pure found

variable (hkind : kind.can .needsElement = true)

include hkind

theorem composed_setState (wanted : Bool) :
    (setState event element wanted).Composed setup event kind := by
  unfold setState
  split
  · exact composed_error _
  · refine .bind (composed_call hkind) fun actual => ?_
    split
    · exact composed_log _
    · exact .bind (composed_log _) fun _ => .click element hkind

theorem composed_set : (set setup event element).Composed setup event kind := by
  unfold set
  split
  · exact composed_setState element hkind _
  · refine .bind (.fill _) fun value => ?_
    split <;> exact composed_said _ hkind
  · exact .pure ()

theorem composed_content (shown : Kind) : (content shown element).Composed setup event kind := by
  unfold content
  split <;> exact composed_call hkind

omit hkind in
/-- A missing alert is an error, but no failure. -/
theorem composed_answerAlert : (answerAlert event).Composed setup event kind := by
  have hminor (accepted : Bool) (e : BrowserError)
      (hne : tellAnswer accepted (.error e) ≠ fail (.ofBrowser e)) : e.IsMinor := by
    cases e with
    | noAlert => trivial
    | _ => exact absurd rfl hne
  have htell (accepted : Bool) (e : BrowserError)
      (hne : tellAnswer accepted (.error e) ≠ fail (.ofBrowser e)) :
      (tellAnswer accepted (.error e)).Composed setup event kind := by
    cases e with
    | noAlert => exact composed_error _
    | _ => exact absurd rfl hne
  unfold answerAlert
  split
  · exact .asked (c := .acceptAlert) trivial (hminor true) (fun _ => composed_log _) (htell true)
  · exact .asked (c := .dismissAlert) trivial (hminor false) (fun _ => composed_log _) (htell false)
  · exact .pure ()

theorem composed_actOn : (actOn setup event element).Composed setup event kind := by
  have hkeep : (keep setup event element).Composed setup event kind :=
    composed_action?_bind (fun _ => .bind (composed_note ..) fun _ => composed_edit hkind) (.pure ())
  have hdisabled : (checkDisabled event element).Composed setup event kind := by
    unfold checkDisabled
    split
    · exact .bind (composed_call hkind) fun _ => composed_when (composed_error _)
    · exact .pure ()
  have hcheck : (checkContent setup event element).Composed setup event kind :=
    .bind (composed_action? "assert") fun _ => .bind (composed_action? "assertnot") fun _ =>
      composed_when (.bind (composed_content element hkind event.kind) fun _ => composed_check ..)
  have hread : (readContent setup event element).Composed setup event kind :=
    composed_action?_bind (fun _ => .bind (composed_content element hkind event.kind) fun _ =>
      .bind (composed_log _) fun _ => composed_edit trivial) (.pure ())
  exact .bind hkeep fun _ => .bind hdisabled fun _ =>
    .bind (composed_when (composed_said _ hkind)) fun _ => .bind (composed_set element hkind) fun _ =>
    .bind (composed_action?_bind (fun _ => composed_said _ hkind) (.pure ())) fun _ =>
    .bind (composed_action?_bind (fun _ => composed_said _ hkind) (.pure ())) fun _ =>
    .bind hcheck fun _ => .bind hread fun _ =>
    .bind (composed_action?_bind (fun _ => composed_said _ hkind) (.pure ())) fun _ =>
    .bind (composed_when (.click element hkind)) fun _ => composed_answerAlert

theorem composed_element : (Act.element setup event parent).Composed setup event kind :=
  .bind (composed_locate parent (.inr hkind)) fun found => .bind (composed_actOn found hkind) fun _ =>
    .pure found

end Elements

/-! ## Frames, windows and alerts -/

section Windows

variable (q : WindowQuery)

theorem composed_frame (parent : Option Element) :
    (frame setup event parent).Composed setup event .frame := by
  have htarget : (frameTarget setup event parent).Composed setup event .frame := by
    refine .bind (composed_fill? _) fun raw => ?_
    cases raw with
    | some raw =>
      dsimp only
      split
      · exact .pure _
      · exact .fault nofun rfl
    | none =>
      refine .bind (composed_fill? _) fun name => ?_
      cases name with
      | some name => exact .pure _
      | none =>
        dsimp only
        split
        · exact .bind (composed_locate parent (.inl rfl)) fun _ => .pure _
        · exact .fault nofun rfl
  refine .bind htarget fun target => .bind (composed_log _) fun _ =>
    .asked (c := .switchToFrame target) rfl (fun e hne => ?_) (fun _ => .pure ()) fun e hne => ?_
  · cases e with
    | noSuchFrame description => trivial
    | _ => exact absurd rfl hne
  · cases e with
    | noSuchFrame description => exact .told _ nofun rfl
    | _ => exact absurd rfl hne

theorem composed_ofEvent (hkind : kind.can .needsElement = false) :
    (WindowQuery.ofEvent setup event).Composed setup event kind := by
  refine .bind (composed_fill? _) fun title => .bind (composed_fill? _) fun url =>
    .bind (composed_fill? _) fun index => ?_
  cases index with
  | some raw =>
    dsimp only
    split
    · exact .pure _
    · exact .fault nofun hkind
  | none =>
    dsimp only
    split
    · exact .fault nofun hkind
    · exact .pure _

/-- One look for a window. -/
theorem composed_find (hkind : kind.shift? = some .window) :
    q.find.Composed setup event kind := by
  have hmatches (wanted : Option String) {c : Call} (hc : c.Suits kind)
      (read : c.Answer → String) :
      (WindowQuery.matchesBy wanted c read).Composed setup event kind := by
    cases wanted with
    | some wanted => exact .bind (composed_call hc) fun _ => .pure _
    | none => exact .pure _
  have hscan (handles : List String) : (q.scan handles).Composed setup event kind := by
    induction handles with
    | nil => exact .pure _
    | cons handle rest ih =>
      refine .bind (composed_call hkind) fun _ =>
        .bind (hmatches q.title (c := .title) trivial _) fun found => ?_
      split
      · exact .pure _
      · refine .bind (hmatches q.url (c := .currentUrl) trivial _) fun found => ?_
        split
        · exact .pure _
        · exact ih
  refine .bind (composed_call trivial) fun handles => ?_
  split
  · exact hscan handles
  · split
    · exact .pure _
    · exact .bind (composed_call hkind) fun _ => .pure _

theorem composed_search (deadline : Duration) (pauses : Nat) :
    (q.search deadline pauses).Composed setup event (.command .attach) := by
  induction pauses with
  | zero => exact composed_find q rfl
  | succ pauses ih =>
    refine .bind (composed_find q rfl) fun found => ?_
    cases found with
    | some handle => exact .pure _
    | none =>
      refine .bind (.move (m := .now) trivial) fun now => ?_
      split
      · exact .pure _
      · exact .bind (.rest (.inr rfl)) fun _ => ih

/-- What an attaching event does once it has looked for its window. -/
theorem composed_attached (hkind : kind.shift? = some .window)
    (hbare : kind.can .needsElement = false) (previous : String) (found : Option String) :
    (match found with
      | some handle => do
        log ("Attached to window '" ++ handle ++ "'.")
        edit (.setWindow (some handle))
      | none => do
        call (.switchToWindow previous)
        error ("Failed to find window matching " ++ q.words ++ ".")
        fail .abort : Act Unit).Composed setup event kind := by
  cases found with
  | some handle => exact .bind (composed_log _) fun _ => composed_edit hkind
  | none =>
    exact .bind (composed_call hkind) fun _ =>
      .told _ (fun hneeds => absurd (hbare.symm.trans hneeds) Bool.false_ne_true) rfl

theorem composed_attach (previous : String) :
    (attach setup q previous).Composed setup event (.command .attach) :=
  .bind (.move (m := .now) trivial) fun _ => .bind (composed_search q _ _) fun found =>
    composed_attached q rfl rfl previous found

/-- Of what is done to the window in use only closing it may change which one that is. -/
theorem composed_browse (hkind : kind.can .needsElement = false) (action url : Option String)
    (hclose : action = some "close" → kind.shift? = some .window) :
    (browse event action url).Composed setup event kind := by
  unfold browse
  split
  · split
    · exact composed_said _ trivial
    · exact .fault nofun hkind
  · exact composed_said _ trivial
  · exact composed_said _ trivial
  · exact composed_said _ trivial
  · have hshift := hclose rfl
    refine .bind (composed_log _) fun _ => .bind (composed_call (c := .close) hshift) fun _ =>
      .bind (composed_call trivial) fun handles => ?_
    split
    · exact .bind (composed_call hshift) fun _ => composed_edit hshift
    · exact composed_edit hshift
  · exact .fault nofun hkind
  · split
    · exact composed_said _ trivial
    · exact .pure ()

theorem composed_checkPage : (checkPage setup).Composed setup event kind :=
  .bind (composed_call trivial) fun _ => .remembered (fun _ _ => rfl) (fun _ _ _ => rfl) fun _ =>
    .bind (composed_forM (fun _ => composed_note ..) _) fun _ =>
      composed_forM (fun _ => composed_when (composed_error _)) _

/-- What is checked of the page after an event has acted on the browser. -/
def checkBrowsed (setup : Setup) (event : Event) : Act Unit := do
  let expected ← action? setup event "assert"
  let unexpected ← action? setup event "assertnot"
  if expected.isSome || unexpected.isSome then
    let page ← call .pageSource
    check expected unexpected page
  if event.actions.flag? "assertpage" == some true then checkPage setup

theorem browser_eq : browser setup event = (do
    let url ← action? setup event "url"
    let action ← action? setup event "action"
    browse event (action.map String.toLower) url
    checkBrowsed setup event) :=
  rfl

theorem composed_checkBrowsed : (checkBrowsed setup event).Composed setup event kind := by
  refine .bind (composed_action? "assert") fun expected =>
    .bind (composed_action? "assertnot") fun unexpected => ?_
  split
  · split
    · exact .bind (composed_call trivial) fun page =>
        .bind (composed_check expected unexpected page) fun _ => composed_checkPage
    · exact composed_checkPage
  · split
    · exact .bind (composed_call trivial) fun page =>
        .bind (composed_check expected unexpected page) fun _ => .pure ()
    · exact .pure ()

theorem composed_browser : (browser setup event).Composed setup event (.command .browser) := by
  rw [browser_eq]
  exact .bind (composed_action? "url") fun url => .bind (composed_action? "action") fun action =>
    .bind (composed_browse rfl _ url fun _ => rfl) fun _ => composed_checkBrowsed

theorem composed_alert : (alert setup event).Composed setup event (.command .alert) := by
  have htext : alertText?.Composed setup event (.command .alert) := by
    refine .asked (c := .alertText) trivial (fun e hne => ?_) (fun _ => .pure _) fun e hne => ?_
    · cases e with
      | noAlert => trivial
      | _ => exact absurd rfl hne
    · cases e with
      | noAlert => exact .pure _
      | _ => exact absurd rfl hne
  refine .bind htext fun text => ?_
  dsimp only
  split
  case' h_1 => split
  case' h_1.isTrue => exact .told _ nofun rfl
  -- what is done with the alert does not depend on the check before
  all_goals cases text with
  | none =>
    dsimp only
    split
    · exact composed_log _
    · exact .told _ nofun rfl
  | some text =>
    refine .bind (composed_action? "assert") fun expected =>
      .bind (composed_check expected none text) fun _ => ?_
    split
    · exact composed_said _ trivial
    · exact composed_said _ trivial
    · exact .pure ()

end Windows

/-! ## Commands -/

section Commands

theorem composed_readFile (hkind : kind = .command .csv ∨ kind = .command .javascript)
    (path : String) : (readFile path).Composed setup event kind := by
  have hbare : kind.can .needsElement = false := by rcases hkind with rfl | rfl <;> rfl
  refine .bind (.performed hkind) fun result => ?_
  cases result with
  | ok text => exact .pure text
  | error e => exact .fault nofun hbare

theorem composed_writeFile (hkind : kind = .command .savehtml ∨ kind = .command .screenshot)
    (path : String) (content : ByteArray) : (writeFile path content).Composed setup event kind := by
  have hbare : kind.can .needsElement = false := by rcases hkind with rfl | rfl <;> rfl
  refine .bind (.performed hkind) fun result => ?_
  cases result with
  | ok _ => exact .pure ()
  | error e => exact .fault nofun hbare

theorem composed_csv : (csv setup event).Composed setup event (.command .csv) := by
  have hchoose : (chooseTable setup event).Composed setup event (.command .csv) := by
    refine .remembered (fun _ _ => rfl) (fun _ _ _ => rfl) fun s => ?_
    split
    · exact .bind (composed_edit rfl) fun _ => .pure _
    · exact composed_require rfl "file"
  refine composed_action?_bind (fun file => ?_) ?_
  · exact .bind (composed_log _) fun _ => .bind (composed_edit rfl) fun _ => .pure _
  · exact .bind hchoose fun file => .bind (composed_action? "var") fun name =>
      .bind (composed_readFile (.inl rfl) _) fun text => .bind (composed_log _) fun _ => .pure _

theorem composed_delete : (delete setup event).Composed setup event (.command .delete) := by
  refine .bind (composed_require rfl "name") fun name =>
    .bound name (f := fun bound => edit (.eraseVar name) >>= fun _ =>
      if bound then log ("Deleted var '" ++ name ++ "'.")
      else warn ("Var '" ++ name ++ "' does not exist.")) fun bound =>
    .bind (composed_edit trivial) fun _ => ?_
  split
  · exact composed_log _
  · exact composed_warn _

theorem composed_dragAndDrop : (dragAndDrop setup event).Composed setup event (.command .dnd) := by
  refine .bind (composed_require rfl "src") fun source =>
    .bind (composed_require rfl "dst") fun target =>
      .remembered (fun _ _ => rfl) (fun hne => absurd rfl hne) fun s => ?_
  dsimp only
  split
  · exact composed_said _ rfl
  · exact .told _ nofun rfl

theorem composed_execute : (execute setup event).Composed setup event (.command .execute) := by
  refine .bind composed_arguments fun args => ?_
  cases args with
  | nil => exact .fault nofun rfl
  | cons program args =>
    refine .bind (composed_log _) fun _ => .bind (.performed rfl) fun result => ?_
    cases result with
    | error e => exact .fault nofun rfl
    | ok finished =>
      exact .bind (composed_forM composed_log _) fun _ => composed_when (.fault nofun rfl)

/-- What comes after a plugin has been named may count on it to be in the catalog. -/
theorem composed_namedPlugin_bind (hkind : kind.can .needsElement = false)
    {f : Registration → Act α}
    (h : ∀ r ∈ Configured.catalog setup.plugins, (f r).Composed setup event kind) :
    (namedPlugin setup event >>= f).Composed setup event kind := by
  rw [namedPlugin, bind_assoc]
  refine .bind (composed_require hkind "classname") fun name => ?_
  split
  · rename_i r hfound
    rw [Registration.named?, List.findRev?_eq_find?_reverse] at hfound
    exact h r (List.mem_reverse.1 (List.mem_of_find?_eq_some hfound))
  · rw [bind_assoc]
    exact .told _ (fun hneeds => absurd (hkind.symm.trans hneeds) Bool.false_ne_true) rfl

theorem composed_callPlugin (parent : Option Element) :
    (callPlugin setup event parent).Composed setup event (.command .javaplugin) :=
  composed_namedPlugin_bind rfl fun _ hmem => .bind composed_arguments fun _ =>
    .bind (composed_log _) fun _ =>
      .plugin rfl hmem (fun _ => rfl) (fun _ => rfl) (.pure ())

theorem composed_loadPlugin :
    (loadPlugin setup event).Composed setup event (.command .pluginloader) :=
  composed_namedPlugin_bind rfl fun _ hmem => .bind (composed_log _) fun _ =>
    .bind (composed_say fun _ heq => by cases heq) fun _ => .activate rfl hmem

theorem composed_javascript :
    (javascript setup event).Composed setup event (.command .javascript) := by
  have hscript : (pageScript setup event).Composed setup event (.command .javascript) := by
    refine .bind (composed_action? "file") fun file =>
      .bind (composed_action? "content") fun content => ?_
    split
    · exact .bind (composed_readFile (.inr rfl) _) fun text => .fill text
    · exact .pure _
    · exact .fault nofun rfl
  exact .bind hscript fun script => .bind (composed_log _) fun _ =>
    .bind (composed_call trivial) fun result => composed_log _

theorem composed_puts : (puts setup event).Composed setup event (.command .puts) :=
  .bind (composed_require rfl "txt") fun _ => composed_log _

theorem composed_saveHtml : (saveHtml setup event).Composed setup event (.command .savehtml) :=
  .bind (composed_require rfl "file") fun _ => .bind (composed_call trivial) fun _ =>
    .bind (composed_writeFile (.inl rfl) _ _) fun _ => composed_log _

theorem composed_screenshot :
    (screenshot setup event).Composed setup event (.command .screenshot) :=
  .bind (composed_require rfl "file") fun _ => .bind (composed_call trivial) fun _ =>
    .bind (composed_writeFile (.inr rfl) _ _) fun _ => composed_log _

theorem composed_script : (script setup event).Composed setup event (.command .script) := by
  refine .bind (composed_require rfl "file") fun path => ?_
  dsimp only
  split
  case' isTrue => refine .bind (.fault nofun rfl) fun _ => ?_
  -- what is done with what has been loaded does not depend on the check before
  all_goals
    exact .loaded rfl (fun _ => rfl) fun events => .bind (composed_log _) fun _ => .pure events

theorem composed_timestamp : timestamp.Composed setup event kind :=
  .bind (.move (m := .calendar) trivial) fun _ => .bind (composed_log _) fun _ =>
    composed_edit trivial

theorem composed_var : (var setup event).Composed setup event (.command .var) := by
  refine .bind (composed_require rfl "var") fun name => ?_
  split
  · exact .bind (composed_edit trivial) fun _ => composed_log _
  · exact .bind (composed_action? "set") fun value => .bind (composed_log _) fun _ =>
      composed_edit trivial

/-- Until it sleeps, an event that waits does nothing that other events might not do. -/
theorem composed_announceWait (hkind : kind.can .needsElement = false) :
    (announceWait setup event).Composed setup event kind := by
  have hsecs : (waitSecs setup event).Composed setup event kind := by
    refine composed_action?_bind (fun raw => ?_) (.pure _)
    dsimp only
    split
    · exact .pure _
    · exact .fault nofun hkind
  exact .bind hsecs fun secs => .bind (composed_log _) fun _ => .pure secs

theorem composed_whitelist :
    (whitelist setup event).Composed setup event (.command .whitelist) := by
  refine .bind (composed_require rfl "name") fun name =>
    .bind (composed_action? "action") fun action => ?_
  split
  · exact .bind (composed_require rfl "content") fun _ => .bind (composed_log _) fun _ =>
      composed_edit trivial
  · refine .remembered (fun _ _ => rfl) (fun _ _ _ => rfl) fun s => ?_
    split
    · exact composed_edit trivial
    · exact composed_warn _
  · exact .fault nofun rfl

end Commands

end Act

/-! ## Whole events -/

namespace Passage

variable {setup : Setup} {event : Event} {kind : Kind}

/-- Put together from acts and, where an event rests, from words to the watchdog. -/
inductive Composed (setup : Setup) (event : Event) (kind : Kind) :
    {α : Type} → Passage α → Prop where
  | pure {α : Type} (a : α) : Composed setup event kind (Pure.pure a)
  | act {α : Type} {a : Act α} : a.Composed setup event kind →
      Composed setup event kind (act setup a)
  | extend (d : Duration) : kind.Rests → Composed setup event kind (extend d)
  | bind {α β : Type} {p : Passage β} {f : β → Passage α} : Composed setup event kind p →
      (∀ b, Composed setup event kind (f b)) → Composed setup event kind (p >>= f)

theorem composed_plainly {a : Act Unit} (h : a.Composed setup event kind) :
    (plainly setup a).Composed setup event kind :=
  .bind (.act h) fun _ => .pure _

/-- **Everything an event does is put together from what events of its kind may do.** -/
theorem composed_carryOut (event : Event) (parent : Option Element) :
    (carryOut setup event parent).Composed setup event event.kind := by
  unfold carryOut
  split <;> rename_i hkind <;> rw [hkind]
  · exact composed_plainly Act.composed_alert
  · exact composed_plainly (.pure ())
  · refine .bind (.act ?_) fun found => .bind (.extend _ (.inr rfl)) fun _ =>
      .bind (.act (Act.composed_attach _ _)) fun _ => .pure _
    exact .bind (Act.composed_ofEvent rfl) fun q => .bind (Act.composed_call trivial) fun _ =>
      .pure _
  · exact composed_plainly Act.composed_browser
  · exact .bind (.act Act.composed_csv) fun _ => .pure _
  · exact composed_plainly Act.composed_delete
  · exact composed_plainly Act.composed_dragAndDrop
  · exact composed_plainly Act.composed_execute
  · exact composed_plainly (Act.composed_callPlugin parent)
  · exact composed_plainly Act.composed_javascript
  · exact composed_plainly Act.composed_loadPlugin
  · exact composed_plainly Act.composed_puts
  · exact composed_plainly Act.composed_saveHtml
  · exact composed_plainly Act.composed_screenshot
  · exact .bind (.act Act.composed_script) fun _ => .pure _
  · exact composed_plainly Act.composed_timestamp
  · exact composed_plainly Act.composed_var
  · exact .bind (.act (Act.composed_announceWait rfl)) fun _ => .bind (.extend _ (.inl rfl)) fun _ =>
      composed_plainly (.rest (.inl rfl))
  · exact composed_plainly Act.composed_whitelist
  · exact .bind (.act (Act.composed_frame parent)) fun _ => .pure _
  · exact .bind (.act (Act.composed_element parent rfl)) fun _ => .pure _
  · rename_i c
    exact .bind (.act (Act.composed_element parent (by cases c <;> rfl))) fun _ => .pure _

/-- So is what restores the context after its children. -/
theorem composed_restore (event : Event) (r : Restore) :
    (restore setup r).Composed setup event r.kind := by
  cases r with
  | nothing => exact .pure ()
  | defaultContent => exact .act (Act.composed_said _ rfl)
  | window handle =>
    exact .act (.bind (Act.composed_log _) fun _ => .bind (Act.composed_call rfl) fun _ =>
      Act.composed_edit rfl)

end Passage
end PageScript
