import PageScript.Proofs.Unwinding

/-!
# What is kept all through a traversal

A traversal is made of stages: events start, are carried out, fail and finish, and rows begin.
`Sustained` gathers what there is to show of an invariant at each of them; the traversal then keeps
it, whichever way it ends and whatever events are under way. An event and a row begin only while the
run has not been stopped.
-/

namespace PageScript

variable {σ α : Type} {o : Outside σ} {setup : Setup} {w : World σ} {s : Session}
  {P : World σ → Prop}

/-- What holds of the world all through a traversal. -/
structure Sustained (setup : Setup) (o : Outside σ) (P : World σ → Prop) : Prop extends
    Kept o P where
  /-- An event starts, which is a sign of progress, and is carried out. -/
  starts : ∀ {w s} event parent, w.isStopped = false → P w →
    Stretch.Leads o (Passage.openEvent setup event parent).run s
      (w.tell (.stage (.started event parent))).pulse fun _ _ w' => P w'
  fails : ∀ {w} event failure, P w → P (w.tell (.stage (.failed event failure)))
  /-- An event finishes, which is a sign of progress. -/
  finishes : ∀ {w} event element, P w → P (w.pulse.tell (.stage (.finished event element)))
  rows : ∀ {w} cells, w.isStopped = false → P w → P (w.tell (.stage (.row cells)))

namespace Sustained

/-- What is kept by a part of an event is kept whatever the part comes to, and by the report of a
failure too. -/
theorem ends (hs : Sustained setup o P) {p : Passage α} (event : Event)
    (h : Stretch.Leads o p.run s w fun _ _ w' => P w') :
    Stretch.Ends o p s w (fun _ _ => P) fun m _ => (Failure.own m).Meets P (fun _ => P) event := by
  refine h.mono fun r s' w' h' => ?_
  rcases r with (_ | _ | e | _) | _
  · exact h'
  · exact h'
  · exact hs.say _ (hs.fails event (.lost e) h')
  · exact h'
  · exact h'

/-- What is kept at every stage does not tell the two ends of a traversal apart. -/
theorem unwinds (hs : Sustained setup o P) : Unwinds setup o (fun _ => P) fun _ _ => P where
  say r _ h := hs.say r h
  query h := hs.step (.act (.call .currentWindow)) h
  fire hphase h := hs.fire hphase h
  opens event parent hstop h := hs.ends event (hs.starts event parent hstop h)
  restores event r h := hs.ends event (hs.restore r h)
  fails event m _ h := hs.fails event (.own m) h
  halts event e h := hs.fails event (.halted e) h
  leaves h := h
  finishes event element h := hs.finishes event element h
  rows cells hstop h := hs.rows cells hstop h

/-- **All that comes before the plugins at the end of a test keeps what each of its stages keeps.** -/
theorem main (hs : Sustained setup o P) (events : List Event) (h : P w) :
    Stretch.Leads o (Journey.main setup events) s w fun _ _ w' => P w' :=
  (hs.unwinds.main events h).mono fun r _ _ h' => by cases r <;> exact h'.2

end Sustained
end PageScript
