import PageScript.Run.Traversal

/-!
# What shifts the context of the browser

A run talks to the window in use, and within it to the frame that it has switched to. Few calls
change which these are, and of what the run remembers only the window in use belongs to it. Each event
leaves alone what it is not for: the frame is changed only by a frame event, the window only by one
that attaches to a window and by one that acts on the browser as a whole.
-/

namespace PageScript

/-- A part of the context in which the browser is called. -/
inductive Shift where
  | frame | window
  deriving DecidableEq, Repr

/-- The part of the context that a call changes, if any. -/
def Call.shift? : Call → Option Shift
  | .switchToFrame _ | .switchToDefaultContent => some .frame
  | .switchToWindow _ | .close => some .window
  | _ => none

def Action.shift? : Action → Option Shift
  | .call c => c.shift?
  | _ => none

def Move.shift? : Move → Option Shift
  | .step (.act a) => a.shift?
  | .edit (.setWindow _) => some .window
  | _ => none

/-- The part of the context that events of a kind are for, if any. -/
def Kind.shift? : Kind → Option Shift
  | .frame => some .frame
  | .command .attach | .command .browser => some .window
  | _ => none

theorem Kind.shift?_eq_frame {kind : Kind} : kind.shift? = some .frame ↔ kind = .frame := by
  unfold Kind.shift?
  split <;> simp_all

theorem Kind.shift?_eq_window {kind : Kind} : kind.shift? = some .window ↔
    kind = .command .attach ∨ kind = .command .browser := by
  unfold Kind.shift?
  split <;> simp_all

/-- The part of the context that is restored, if any. -/
def Restore.shift? : Restore → Option Shift
  | .nothing => none
  | .defaultContent => some .frame
  | .window _ => some .window

end PageScript
