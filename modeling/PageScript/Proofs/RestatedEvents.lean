import PageScript.Run.Traversal

/-!
# Events that say the same

An event is asked for its actions by name, one after another in an order of the run's own, so it
makes no difference in which order they stand. Two events restate each other if they have the same
kind, name, selectors, arguments and text, and the same value under each name of an action. The
selectors go to the browser as a list, so they have to stand in the same order.

What an event does by itself is then the same act, with one exception: around a click the event
hands itself to the plugins, which are told of no more than its name. So runs of events that restate
each other are the same but for the events that they show on the way, and these restate each other
again. One run is then an echo of the other.
-/

namespace PageScript

/-! ## Events -/

/-- Two events that say the same, leaving aside what stands below them. -/
structure Event.Restates (e e' : Event) : Prop where
  kind_eq : e'.kind = e.kind
  name_eq : e'.name = e.name
  selectors_eq : e'.selectors = e.selectors
  get?_eq : ∀ name, e'.actions.get? name = e.actions.get? name
  args_eq : e'.args = e.args
  text_eq : e'.text = e.text

mutual

/-- Two events that say the same, and so do those below them. -/
inductive Event.Echoes : Event → Event → Prop where
  | intro {e e' : Event} (here : e.Restates e') (below : Event.EchoAll e.children e'.children) :
    Event.Echoes e e'

/-- Events that say the same as others, one each and in their order. -/
inductive Event.EchoAll : List Event → List Event → Prop where
  | nil : Event.EchoAll [] []
  | cons {e e' : Event} {es es' : List Event} (head : Event.Echoes e e')
    (tail : Event.EchoAll es es') : Event.EchoAll (e :: es) (e' :: es')

end

namespace Event

variable {event event' : Event}

theorem Echoes.here : event.Echoes event' → event.Restates event'
  | .intro here _ => here

theorem Echoes.children : event.Echoes event' → EchoAll event.children event'.children
  | .intro _ below => below

theorem EchoAll.length_eq {es es' : List Event} (h : EchoAll es es') : es'.length = es.length :=
  match h with
  | .nil => rfl
  | .cons _ tail => congrArg Nat.succ tail.length_eq

theorem Echoes.descends_eq (h : event.Echoes event') : event'.descends = event.descends := by
  have hempty : event'.children.isEmpty = event.children.isEmpty := by
    rcases h with ⟨-, below⟩
    generalize event.children = es, event'.children = es' at below
    cases below <;> rfl
  rw [descends, descends, hempty, h.here.kind_eq]

namespace Restates

variable (h : event.Restates event')

include h

theorem text?_eq (name : String) : event'.actions.text? name = event.actions.text? name := by
  rw [Attributes.text?, Attributes.text?, h.get?_eq]

theorem flag?_eq (name : String) : event'.actions.flag? name = event.actions.flag? name := by
  rw [Attributes.flag?, Attributes.flag?, h.get?_eq]

theorem required_eq : event'.required = event.required := by
  rw [required, required, h.flag?_eq]

theorem missing_eq (message : String) : Mishap.missing event' message = .missing event message := by
  rw [Mishap.missing, Mishap.missing, h.name_eq]

end Restates
end Event

/-! ## Acts that are the same -/

namespace Event.Restates

open Act

variable {event event' : Event} (h : event.Restates event') (setup : Setup)

include h

theorem action?_eq (name : String) : action? setup event' name = action? setup event name := by
  rw [action?, action?, h.text?_eq]

theorem require_eq (name : String) : require setup event' name = require setup event name := by
  simp only [require, h.action?_eq, h.missing_eq]

theorem arguments_eq : arguments setup event' = arguments setup event := by
  rw [arguments, arguments, h.args_eq]

theorem locate_eq (parent : Option Element) :
    locate setup event' parent = locate setup event parent := by
  simp only [locate, Act.selectors, tellMissing, h.selectors_eq, h.flag?_eq, h.required_eq,
    h.name_eq]

theorem frame_eq (parent : Option Element) :
    frame setup event' parent = frame setup event parent := by
  simp only [frame, frameTarget, h.selectors_eq, h.locate_eq, h.missing_eq]

theorem keep_eq (element : Element) : keep setup event' element = keep setup event element := by
  simp only [keep, h.action?_eq]

omit setup in
theorem checkDisabled_eq (element : Element) :
    checkDisabled event' element = checkDisabled event element := by
  simp only [checkDisabled, h.flag?_eq, h.name_eq]

omit setup in
theorem clear_eq (element : Element) : clear event' element = clear event element := by
  simp only [clear, h.flag?_eq, h.name_eq]

theorem selectValue_eq (element : Element) :
    selectValue setup event' element = selectValue setup event element := by
  simp only [selectValue, h.action?_eq]

theorem append_eq (element : Element) :
    append setup event' element = append setup event element := by
  simp only [append, h.action?_eq]

theorem checkContent_eq (element : Element) :
    checkContent setup event' element = checkContent setup event element := by
  simp only [checkContent, h.action?_eq, h.kind_eq]

theorem readContent_eq (element : Element) :
    readContent setup event' element = readContent setup event element := by
  simp only [readContent, h.action?_eq, h.kind_eq]

theorem firePageEvent_eq (element : Element) :
    firePageEvent setup event' element = firePageEvent setup event element := by
  simp only [firePageEvent, h.action?_eq]

omit setup in
theorem answerAlert_eq : answerAlert event' = answerAlert event := by
  simp only [answerAlert, h.flag?_eq]

theorem browser_eq : browser setup event' = browser setup event := by
  simp only [browser, browse, h.action?_eq, h.missing_eq, h.flag?_eq]

theorem alert_eq : alert setup event' = alert setup event := by
  simp only [alert, h.action?_eq, h.flag?_eq]

theorem csv_eq : csv setup event' = csv setup event := by
  simp only [csv, chooseTable, h.action?_eq, h.require_eq]

theorem delete_eq : delete setup event' = delete setup event := by
  simp only [delete, h.require_eq]

theorem dragAndDrop_eq : dragAndDrop setup event' = dragAndDrop setup event := by
  simp only [dragAndDrop, h.require_eq]

theorem execute_eq : execute setup event' = execute setup event := by
  simp only [execute, h.arguments_eq, h.missing_eq]

theorem namedPlugin_eq : namedPlugin setup event' = namedPlugin setup event := by
  simp only [namedPlugin, h.require_eq]

theorem callPlugin_eq (parent : Option Element) :
    callPlugin setup event' parent = callPlugin setup event parent := by
  simp only [callPlugin, h.namedPlugin_eq, h.arguments_eq]

theorem loadPlugin_eq : loadPlugin setup event' = loadPlugin setup event := by
  simp only [loadPlugin, h.namedPlugin_eq]

theorem javascript_eq : javascript setup event' = javascript setup event := by
  simp only [javascript, pageScript, h.action?_eq, h.missing_eq]

theorem puts_eq : puts setup event' = puts setup event := by
  simp only [puts, h.require_eq]

theorem saveHtml_eq : saveHtml setup event' = saveHtml setup event := by
  simp only [saveHtml, h.require_eq]

theorem screenshot_eq : screenshot setup event' = screenshot setup event := by
  simp only [screenshot, h.require_eq]

theorem script_eq : script setup event' = script setup event := by
  simp only [script, h.require_eq]

theorem var_eq : var setup event' = var setup event := by
  simp only [var, h.require_eq, h.action?_eq, h.flag?_eq]

theorem announceWait_eq : announceWait setup event' = announceWait setup event := by
  simp only [announceWait, waitSecs, h.action?_eq]

theorem whitelist_eq : whitelist setup event' = whitelist setup event := by
  simp only [whitelist, h.require_eq, h.action?_eq]

theorem ofEvent_eq :
    WindowQuery.ofEvent setup event' = WindowQuery.ofEvent setup event := by
  simp only [WindowQuery.ofEvent, h.selectors_eq, h.missing_eq]

end Event.Restates
end PageScript
