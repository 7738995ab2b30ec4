import PageScript.Text.Quoted
import PageScript.Duration

/-!
# Talking to a browser

The calls a run makes of a browser, what each of them answers, and the ways a call can fail. A run
never does anything to a page but through these calls.
-/

namespace PageScript

/-- A handle to an element of the page: an identifier that the browser gives out, and the tag. -/
structure Element where
  id : String
  tag : String
  deriving DecidableEq, Repr

/-- How a frame is picked. -/
inductive FrameTarget where
  | index (n : Nat)
  | name (s : String)
  | element (e : Element)
  deriving DecidableEq, Repr

/-- How an option of a selection list is picked: by its text or by its value. -/
inductive OptionTarget where
  | text (s : String)
  | value (s : String)
  deriving DecidableEq, Repr

/-- The ways a call can fail. -/
inductive BrowserError where
  | noSuchElement (description : String)
  | elementNotVisible
  | noSuchFrame (description : String)
  | noSuchWindow (description : String)
  | noAlert
  | sessionLost (reason : String)
  | script (reason : String)
  | other (reason : String)
  deriving DecidableEq, Repr

/-- One call of a browser. -/
inductive Call where
  /-- Finds an element that meets every selector, under a parent if one is given, looking again for
  as long as `patience` lasts. -/
  | find (selectors : List (String × String)) (parent : Option Element) (patience : Duration)
  | click (e : Element)
  | text (e : Element)
  | value (e : Element)
  | setValue (e : Element) (value : String)
  | appendValue (e : Element) (value : String)
  | clear (e : Element)
  | isSelected (e : Element)
  | isEnabled (e : Element)
  | selectOption (e : Element) (target : OptionTarget)
  | fireEvent (e : Element) (event : String)
  | switchToFrame (target : FrameTarget)
  | switchToDefaultContent
  | windowHandles
  | currentWindow
  | switchToWindow (handle : String)
  | title
  | currentUrl
  | navigate (url : String)
  | back
  | forward
  | refresh
  | close
  | pageSource
  | executeScript (script : String)
  | screenshot
  | alertText
  | acceptAlert
  | dismissAlert
  | dragAndDrop (source target : Element)
  deriving DecidableEq, Repr

/-- What a call answers when it succeeds. -/
@[reducible] def Call.Answer : Call → Type
  | .find .. => Element
  | .text _ | .value _ | .currentWindow | .title | .currentUrl | .pageSource | .executeScript _
  | .alertText => String
  | .isSelected _ | .isEnabled _ => Bool
  | .windowHandles => List String
  | .screenshot => ByteArray
  | _ => Unit

namespace BrowserError

/-- The text of a browser error. -/
def message : BrowserError → String
  | .noSuchElement d => "No element found matching " ++ d
  | .elementNotVisible => "Element is not visible"
  | .noSuchFrame d => "No frame found matching " ++ d
  | .noSuchWindow d => "No window found matching " ++ d
  | .noAlert => "No alert is present"
  | .sessionLost r => "Browser session lost: " ++ r
  | .script r => "Script failed: " ++ r
  | .other r => r

/-- Whether the browser is gone, so that no later call can succeed. -/
def isFatal : BrowserError → Bool
  | .sessionLost _ => true
  | _ => false

end BrowserError

/-- An element as log lines show it. -/
def Element.shown (e : Element) : String :=
  "Element \x7b id: " ++ Text.quoted e.id ++ ", tag: " ++ Text.quoted e.tag ++ " \x7d"

/-- A frame target as log lines show it. -/
def FrameTarget.shown : FrameTarget → String
  | .index n => "Index(" ++ toString n ++ ")"
  | .name s => "Name(" ++ Text.quoted s ++ ")"
  | .element e => "Element(" ++ e.shown ++ ")"

/-- An option target as log lines show it. -/
def OptionTarget.shown : OptionTarget → String
  | .text s => "Text(" ++ Text.quoted s ++ ")"
  | .value s => "Value(" ++ Text.quoted s ++ ")"

end PageScript
