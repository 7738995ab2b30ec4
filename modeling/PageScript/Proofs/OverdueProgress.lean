import Mathlib.Algebra.Ring.Nat
import PageScript.Run.Watchdog

/-!
# Overdue progress

What a watchdog answers is a matter of what has been done with it: how far the clock has gone on,
when it was told of progress, and what has been allowed for since. `Overdue` reads this off a list
of operations, which knows of no state, and `Watch.Recalls` ties the state to the list. The time
since the last pulse is that of the clock's advances after it; an extension stands in place of those
before it, and is forgotten with the next pulse.
-/

namespace PageScript

/-! ## Operations -/

/-- What is done with a watchdog. -/
inductive WatchOp where
  /-- The clock goes on. -/
  | advance (d : Duration)
  | pulse
  | extend (d : Duration)
  | expired
  | check
  deriving DecidableEq, Repr

/-- A watchdog at a point of time. -/
structure Watch where
  watchdog : Watchdog
  now : Duration

namespace Watch

/-- A watchdog that has just been made. -/
def made (timeout now : Duration) : Watch :=
  ⟨.create timeout now, now⟩

/-- Carries out one operation, and tells what it answers. -/
def step (w : Watch) : WatchOp → Option Bool × Watch
  | .advance d => (none, { w with now := w.now + d })
  | .pulse => (none, { w with watchdog := w.watchdog.pulse w.now })
  | .extend d => (none, { w with watchdog := w.watchdog.extend d })
  | .expired => (some (w.watchdog.expired w.now), w)
  | .check =>
    let watchdog := w.watchdog.check w.now
    (some watchdog.tripped, { w with watchdog })

/-- Carries out operations one after another. -/
def run (w : Watch) (ops : List WatchOp) : Watch :=
  ops.foldl (fun w op => (w.step op).2) w

end Watch

/-! ## What a list of operations tells -/

namespace WatchOp

/-- How far the clock goes on. -/
def time : WatchOp → Duration
  | advance d => d
  | _ => 0

/-- What is allowed for, if anything is. -/
def allowed? : WatchOp → Option Duration
  | extend d => some d
  | _ => none

/-- What has been done since the last pulse, the newest first. -/
def sincePulse (past : List WatchOp) : List WatchOp :=
  past.reverse.takeWhile (· ≠ .pulse)

/-- The time that has passed since the last pulse. -/
def idleTime (past : List WatchOp) : Duration :=
  ((sincePulse past).map time).sum

/-- What has been allowed for last since the last pulse; nothing if there is no extension. -/
def extension (past : List WatchOp) : Duration :=
  ((sincePulse past).findSome? allowed?).getD 0

/-- More time has passed since the last pulse than the timeout and the extension allow; their sum
stops at the longest duration. -/
def Overdue (timeout : Duration) (past : List WatchOp) : Prop :=
  min (timeout + extension past) Duration.longest < idleTime past

instance (timeout : Duration) (past : List WatchOp) : Decidable (Overdue timeout past) :=
  inferInstanceAs (Decidable (_ < _))

/-- Some check has come too late. -/
def Caught (timeout : Duration) (past : List WatchOp) : Prop :=
  ∃ earlier, earlier ++ [.check] <+: past ∧ Overdue timeout earlier

variable {timeout : Duration} {past : List WatchOp} {op : WatchOp}

theorem sincePulse_concat (past : List WatchOp) (op : WatchOp) :
    sincePulse (past ++ [op]) = if op = .pulse then [] else op :: sincePulse past := by
  rw [sincePulse, List.reverse_append, List.reverse_singleton, List.singleton_append,
    List.takeWhile_cons]
  by_cases h : op = .pulse
  · rw [if_pos h, if_neg (by simp [h])]
  · rw [if_neg h, if_pos (by simp [h]), sincePulse]

theorem idleTime_concat (h : op ≠ .pulse) : idleTime (past ++ [op]) = idleTime past + op.time := by
  rw [idleTime, sincePulse_concat, if_neg h, List.map_cons, List.sum_cons, Nat.add_comm, idleTime]

theorem extension_concat (h : op ≠ .pulse) :
    extension (past ++ [op]) = op.allowed?.getD (extension past) := by
  rw [extension, sincePulse_concat, if_neg h, List.findSome?_cons]
  cases op.allowed? <;> rfl

/-- A pulse makes a fresh start. -/
theorem fresh_of_pulse (past : List WatchOp) :
    idleTime (past ++ [.pulse]) = 0 ∧ extension (past ++ [.pulse]) = 0 := by
  rw [idleTime, extension, sincePulse_concat, if_pos rfl]
  exact ⟨rfl, rfl⟩

/-- A check is caught late once and for all: only another check can add to those that are. -/
theorem caught_concat : Caught timeout (past ++ [op]) ↔
    Caught timeout past ∨ op = .check ∧ Overdue timeout past := by
  constructor
  · intro ⟨earlier, hprefix, hlate⟩
    rcases List.prefix_concat_iff.1 hprefix with heq | hprefix
    · obtain ⟨rfl, hop⟩ := List.append_inj' heq rfl
      exact Or.inr ⟨(List.singleton_inj.1 hop).symm, hlate⟩
    · exact Or.inl ⟨earlier, hprefix, hlate⟩
  · intro h
    rcases h with ⟨earlier, hprefix, hlate⟩ | ⟨rfl, hlate⟩
    · exact ⟨earlier, hprefix.trans (List.prefix_append past [op]), hlate⟩
    · exact ⟨past, List.prefix_rfl, hlate⟩

theorem Caught.append (h : Caught timeout past) (later : List WatchOp) :
    Caught timeout (past ++ later) := by
  obtain ⟨earlier, hprefix, hlate⟩ := h
  exact ⟨earlier, hprefix.trans (List.prefix_append past later), hlate⟩

theorem not_caught_nil : ¬ Caught timeout [] := by
  intro ⟨earlier, hprefix, _⟩
  exact absurd (List.prefix_nil.1 hprefix) (by simp)

end WatchOp

open WatchOp

namespace Watch

variable {timeout start : Duration} {past : List WatchOp} {w : Watch} {op : WatchOp}

/-! ## One operation -/

theorem now_step (w : Watch) (op : WatchOp) : (w.step op).2.now = w.now + op.time := by
  cases op <;> rfl

theorem timeout_step (w : Watch) (op : WatchOp) :
    (w.step op).2.watchdog.timeout = w.watchdog.timeout := by
  cases op <;> rfl

theorem lastPulse_step (h : op ≠ .pulse) :
    (w.step op).2.watchdog.lastPulse = w.watchdog.lastPulse := by
  cases op with
  | pulse => exact absurd rfl h
  | _ => rfl

theorem extension_step (h : op ≠ .pulse) :
    (w.step op).2.watchdog.extension = op.allowed?.getD w.watchdog.extension := by
  cases op with
  | pulse => exact absurd rfl h
  | _ => rfl

/-- Only a check can trip the watchdog, and only one that comes too late. -/
theorem tripped_step : (w.step op).2.watchdog.tripped = true ↔
    w.watchdog.tripped = true ∨ op = .check ∧ w.watchdog.expired w.now = true := by
  cases op with
  | check => simp [step]
  | _ => simp [step]

/-! ## A watchdog recalls its past -/

/-- A watchdog knows of what has been done with it since it was made as much as matters. -/
structure Recalls (timeout : Duration) (past : List WatchOp) (w : Watch) : Prop where
  timeout_eq : w.watchdog.timeout = timeout
  /-- The clock has gone on since the last pulse as the past tells. -/
  now_eq : w.now = w.watchdog.lastPulse + idleTime past
  extension_eq : w.watchdog.extension = extension past
  tripped_iff : w.watchdog.tripped = true ↔ Caught timeout past

theorem recalls_made (timeout start : Duration) : (made timeout start).Recalls timeout [] where
  timeout_eq := rfl
  now_eq := rfl
  extension_eq := rfl
  tripped_iff := iff_of_false Bool.false_ne_true not_caught_nil

theorem Recalls.expired_iff (h : w.Recalls timeout past) :
    w.watchdog.expired w.now = true ↔ Overdue timeout past := by
  have hidle : w.watchdog.idle w.now = idleTime past := by
    rw [Watchdog.idle, h.now_eq, Nat.add_sub_cancel_left]
  rw [Watchdog.expired, decide_eq_true_eq, hidle, Watchdog.allowance, Duration.saturatingAdd,
    h.timeout_eq, h.extension_eq, Overdue]

/-- Whatever is done next is recalled, too. -/
theorem Recalls.step (h : w.Recalls timeout past) (op : WatchOp) :
    (w.step op).2.Recalls timeout (past ++ [op]) := by
  refine ⟨(timeout_step w op).trans h.timeout_eq, ?_, ?_, ?_⟩
  · by_cases hop : op = .pulse
    · -- the last pulse is this one
      subst hop
      rw [(fresh_of_pulse past).1]
      rfl
    · rw [now_step, lastPulse_step hop, h.now_eq, idleTime_concat hop, Nat.add_assoc]
  · by_cases hop : op = .pulse
    · subst hop
      rw [(fresh_of_pulse past).2]
      rfl
    · rw [extension_step hop, h.extension_eq, extension_concat hop]
  · rw [tripped_step, h.tripped_iff, h.expired_iff, caught_concat]

theorem Recalls.run (h : w.Recalls timeout past) (ops : List WatchOp) :
    (w.run ops).Recalls timeout (past ++ ops) := by
  induction ops generalizing w past with
  | nil => rwa [List.append_nil]
  | cons op rest ih =>
    rw [List.append_cons]
    exact ih (h.step op)

/-! ## Answers -/

/-- A check answers what the watchdog is left with. -/
theorem answer_check (w : Watch) :
    (w.step .check).1 = some (w.step .check).2.watchdog.tripped := rfl

/-- **The answers of a watchdog are a matter of its history.** A check answers that the watchdog has
tripped if and only if at this check or an earlier one more time had passed since the last pulse
than the timeout allows together with the last extension since that pulse. Whether it has expired is
the same question about this point of time alone. Once a check has answered so, every later one
does, and nothing but a check makes it so. -/
theorem answers_of_history (timeout start : Duration) (ops : List WatchOp) :
    let w := (made timeout start).run ops
    (∃ tripped, (w.step .check).1 = some tripped ∧
      (tripped = true ↔
        ∃ earlier, earlier ++ [.check] <+: ops ++ [.check] ∧ Overdue timeout earlier)) ∧
    (∃ late, (w.step .expired).1 = some late ∧ (late = true ↔ Overdue timeout ops)) ∧
    (∀ later, (w.step .check).1 = some true →
      ((w.run (.check :: later)).step .check).1 = some true) ∧
    ∀ op, op ≠ .check → (w.step op).2.watchdog.tripped = w.watchdog.tripped := by
  intro w
  have hw : w.Recalls timeout ops := (recalls_made timeout start).run ops
  refine ⟨⟨_, answer_check w, (hw.step .check).tripped_iff⟩, ⟨_, rfl, hw.expired_iff⟩, ?_, ?_⟩
  · intro later htripped
    have hcaught : Caught timeout (ops ++ [.check]) :=
      (hw.step .check).tripped_iff.1 (Option.some.inj htripped)
    have hlater := (hw.run (.check :: later)).step .check
    rw [List.append_cons ops, List.append_assoc] at hlater
    rw [answer_check, hlater.tripped_iff.2 (hcaught.append _)]
  · intro op hop
    rw [Bool.eq_iff_iff, tripped_step]
    exact or_iff_left fun h => hop h.1

/-- The second extension takes the place of the first one, and the end of what is allowed is not yet
late. A pulse and an extension after the late check do not make up for it. -/
theorem answers_of_extensions :
    let w := (made 5 0).run [.extend 60, .extend 2, .advance 7]
    (w.step .check).1 = some false ∧ ((w.run [.advance 1]).step .check).1 = some true ∧
      ((w.run [.advance 1, .check, .pulse, .extend 60]).step .check).1 = some true := by
  have hlate := answers_of_history 5 0 [.extend 60, .extend 2, .advance 7, .advance 1]
  have htripped : (((made 5 0).run [.extend 60, .extend 2, .advance 7, .advance 1]).step .check).1 =
      some true := by
    obtain ⟨tripped, hanswer, htripped⟩ := hlate.1
    rw [hanswer, htripped.2 ⟨_, List.prefix_rfl, by decide⟩]
  exact ⟨by decide, htripped, hlate.2.2.1 [.pulse, .extend 60] htripped⟩

end Watch
end PageScript
