import PageScript.Proofs.Histories

/-!
# The watchdog and its looks

The history of a run tells what the watchdog knows: when it was last told of progress, and what has
been allowed since on top of its timeout. It also tells of each look of the supervisor, with what
lay behind at that look. The supervisor's law says of each mark where it may stand. From the law
alone it follows that the looks come at every multiple of the interval, that the watchdog stops the
run at the first look that comes too late, and that nothing happens in between once that look is
over.
-/

namespace PageScript

/-! ## What a history tells of the watchdog -/

/-- When the watchdog was last told of progress. -/
def lastPulse : List Happening → Duration
  | [] => 0
  | .mark (.pulsed t) :: _ => t
  | _ :: past => lastPulse past

/-- What has been allowed on top of the timeout since the last pulse, if anything has. -/
def allowed? : List Happening → Option Duration
  | [] => none
  | .mark (.pulsed _) :: _ => none
  | .mark (.extended d) :: _ => some d
  | _ :: past => allowed? past

/-- The time that may pass after the last pulse. -/
def allowance (timeout : Duration) (past : List Happening) : Duration :=
  Duration.saturatingAdd timeout ((allowed? past).getD 0)

/-- More time than allowed has passed since the last pulse. -/
def Late (timeout : Duration) (past : List Happening) (t : Duration) : Prop :=
  lastPulse past + allowance timeout past < t

/-- A look of the supervisor at the watchdog. -/
structure Look where
  time : Duration
  past : List Happening

/-- The looks that something in a history tells of; the one that finds the watchdog expired is the
one at which the watchdog stops the run. -/
def looksAt (poll : Duration) : Happening → List Happening → List Look
  | .mark (.looked first next), past =>
    (List.range ((next - first) / poll)).map fun j => ⟨first + j * poll, past⟩
  | .mark (.stopped .watchdog t), past => [⟨t, past⟩]
  | _, _ => []

/-- The looks of the supervisor, in order. -/
def looks (poll : Duration) : List Happening → List Look
  | [] => []
  | h :: past => looks poll past ++ looksAt poll h past

/-- When the look after all looks so far comes. -/
def nextLook (poll : Duration) (past : List Happening) : Duration :=
  (looks poll past).length * poll

/-- The first multiple of the interval that comes too late after the last pulse. -/
def deadline (timeout poll : Duration) (past : List Happening) : Duration :=
  ((lastPulse past + allowance timeout past) / poll + 1) * poll

/-- Where the marks of a run and of its supervisor may stand. -/
def watchLaw (timeout poll : Duration) : Happening → List Happening → Prop
  | .mark (.pulsed t), past =>
    lastPulse past ≤ t ∧ nextLook poll past ≤ t + poll ∧ (¬ Stopped past → t ≤ nextLook poll past)
  | .mark (.looked first next), past =>
    ¬ Stopped past ∧ first = nextLook poll past ∧ ∃ k, next = first + k * poll ∧
      ∀ j < k, lastPulse past ≤ first + j * poll ∧ ¬ Late timeout past (first + j * poll)
  | .mark (.stopped who t), past =>
    ¬ Stopped past ∧ lastPulse past ≤ t ∧ t ≤ nextLook poll past ∧ nextLook poll past ≤ t + poll ∧
      (who = .watchdog → t = nextLook poll past ∧ Late timeout past t)
  | _, _ => True

/-- More time is allowed at most once after a pulse. -/
def onceLaw : Happening → List Happening → Prop
  | .mark (.extended _), past => allowed? past = none
  | _, _ => True

/-- What happens is no mark. -/
def Happening.Unmarked (h : Happening) : Prop := ∀ m, h ≠ .mark m

section Unmarked

variable {h : Happening} {past : List Happening} {timeout poll : Duration}

theorem lastPulse_unmarked (hm : h.Unmarked) : lastPulse (h :: past) = lastPulse past := by
  rw [lastPulse]; exact fun _ => hm _

theorem allowed?_unmarked (hm : h.Unmarked) : allowed? (h :: past) = allowed? past := by
  rw [allowed?] <;> exact fun _ => hm _

theorem watchLaw_unmarked (hm : h.Unmarked) : watchLaw timeout poll h past := by
  unfold watchLaw
  split <;> first | exact absurd rfl (hm _) | trivial

theorem unmarked_remark (r : Remark) : (Happening.notice r.notice).Unmarked := by
  intro m heq
  cases r <;> cases heq

end Unmarked

section NextLook

variable {h : Happening} {past : List Happening} {poll : Duration}

theorem nextLook_cons (poll : Duration) (h : Happening) (past : List Happening) :
    nextLook poll (h :: past) = nextLook poll past + (looksAt poll h past).length * poll := by
  rw [nextLook, looks, List.length_append, Nat.add_mul, nextLook]

theorem nextLook_unmarked (hm : h.Unmarked) : nextLook poll (h :: past) = nextLook poll past := by
  have hnone : looksAt poll h past = [] := by rw [looksAt] <;> intros <;> exact hm _ ‹_›
  simp [nextLook_cons, hnone]

@[simp] theorem nextLook_pulsed (t : Duration) :
    nextLook poll (.mark (.pulsed t) :: past) = nextLook poll past := by
  simp [nextLook_cons, looksAt]

@[simp] theorem nextLook_extended (d : Duration) :
    nextLook poll (.mark (.extended d) :: past) = nextLook poll past := by
  simp [nextLook_cons, looksAt]

theorem nextLook_stopped {who : Stopper} (hne : who ≠ .watchdog) (t : Duration) :
    nextLook poll (.mark (.stopped who t) :: past) = nextLook poll past := by
  cases who <;> first | exact absurd rfl hne | simp [nextLook_cons, looksAt]

@[simp] theorem nextLook_tripped (t : Duration) :
    nextLook poll (.mark (.stopped .watchdog t) :: past) = nextLook poll past + poll := by
  simp [nextLook_cons, looksAt]

theorem looksAt_looked (hpoll : 0 < poll) (first : Duration) (k : Nat) :
    looksAt poll (.mark (.looked first (first + k * poll))) past =
      (List.range k).map fun j => ⟨first + j * poll, past⟩ := by
  rw [looksAt, Nat.add_sub_cancel_left, Nat.mul_div_cancel _ hpoll]

theorem nextLook_looked (hpoll : 0 < poll) (first : Duration) (k : Nat) :
    nextLook poll (.mark (.looked first (first + k * poll)) :: past) =
      nextLook poll past + k * poll := by
  simp [nextLook_cons, looksAt_looked hpoll]

end NextLook

/-! ## What follows from the law -/

section Consequences

variable {timeout poll t : Duration} {past history : List Happening} {look : Look}

/-- Looks are only added. -/
theorem looks_prefix (hsuffix : past <:+ history) : looks poll past <+: looks poll history := by
  induction history with
  | nil =>
    cases List.suffix_nil.1 hsuffix
    exact List.prefix_rfl
  | cons h history ih =>
    rcases List.suffix_cons_iff.1 hsuffix with rfl | hsuffix
    · exact List.prefix_rfl
    · exact (ih hsuffix).trans (List.prefix_append _ _)

/-- What a look tells of itself: it comes in its turn, no earlier than the last pulse, and it finds
the watchdog expired only where the watchdog stops the run. -/
theorem looksAt_spec (hpoll : 0 < poll) {h : Happening} (hlaw : watchLaw timeout poll h past)
    {k : Nat} (hk : (looksAt poll h past)[k]? = some look) :
    look.time = ((looks poll past).length + k) * poll ∧ look.past = past ∧
      lastPulse past ≤ look.time ∧
        (Late timeout past look.time ↔ h = .mark (.stopped .watchdog look.time)) := by
  unfold looksAt at hk
  split at hk
  · rename_i past first next
    obtain ⟨-, rfl, n, rfl, hall⟩ := hlaw
    rw [Nat.add_sub_cancel_left, Nat.mul_div_cancel _ hpoll, List.getElem?_map,
      Option.map_eq_some_iff] at hk
    obtain ⟨j, hj, rfl⟩ := hk
    obtain ⟨hlt, rfl⟩ := List.getElem?_eq_some_iff.1 hj
    rw [List.length_range] at hlt
    rw [List.getElem_range]
    exact ⟨by rw [Nat.add_mul, nextLook], rfl, (hall k hlt).1,
      iff_of_false (hall k hlt).2 fun heq => by cases heq⟩
  · rcases k with _ | k
    · cases hk
      obtain ⟨ht, hlate⟩ := hlaw.2.2.2.2 rfl
      exact ⟨by rw [Nat.add_zero, ← nextLook, ← ht], rfl, hlaw.2.1, iff_of_true hlate rfl⟩
    · cases hk
  · cases hk

/-- A look of a history comes about with something in it. -/
theorem exists_looksAt {k : Nat} (hk : (looks poll history)[k]? = some look) :
    ∃ h past j, h :: past <:+ history ∧ (looksAt poll h past)[j]? = some look ∧
      k = (looks poll past).length + j := by
  induction history with
  | nil => cases hk
  | cons h past ih =>
    rw [looks, List.getElem?_append] at hk
    split at hk
    · obtain ⟨h', past', j, hsuffix, hj, heq⟩ := ih hk
      exact ⟨h', past', j, hsuffix.trans (List.suffix_cons h past), hj, heq⟩
    · exact ⟨h, past, k - (looks poll past).length, List.suffix_rfl, hk, by lia⟩

variable (habides : Abides (watchLaw timeout poll) history) (hpoll : 0 < poll)

include habides hpoll

/-- **Each look comes in its turn**, one interval after the other. -/
theorem time_of_look {k : Nat} (hk : (looks poll history)[k]? = some look) :
    look.time = k * poll := by
  obtain ⟨h, past, j, hsuffix, hj, rfl⟩ := exists_looksAt hk
  exact (looksAt_spec hpoll (habides h past hsuffix) hj).1

/-- A look comes no earlier than the pulses that it knows of. -/
theorem lastPulse_le_look (hlook : look ∈ looks poll history) :
    lastPulse look.past ≤ look.time := by
  obtain ⟨k, hk⟩ := List.mem_iff_getElem?.1 hlook
  obtain ⟨h, past, j, hsuffix, hj, -⟩ := exists_looksAt hk
  obtain ⟨-, rfl, hle, -⟩ := looksAt_spec hpoll (habides h past hsuffix) hj
  exact hle

/-- A look comes no later than the pulses that it does not know of. -/
theorem look_le_pulse (hsuffix : .mark (.pulsed t) :: past <:+ history)
    (hlook : look ∈ looks poll past) : look.time ≤ t := by
  obtain ⟨k, hk⟩ := List.mem_iff_getElem?.1 hlook
  have hpast := habides.suffix ((List.suffix_cons _ past).trans hsuffix)
  obtain ⟨hlt, -⟩ := List.getElem?_eq_some_iff.1 hk
  have hnext := (habides _ _ hsuffix).2.1
  rw [time_of_look hpast hpoll hk]
  have := Nat.mul_le_mul_right poll (Nat.succ_le_of_lt hlt)
  rw [Nat.succ_mul] at this
  rw [nextLook] at hnext
  lia

/-- A look finds the watchdog expired exactly if the watchdog stops the run at it. -/
theorem late_iff_stopped (hlook : look ∈ looks poll history) :
    Late timeout look.past look.time ↔
      .mark (.stopped .watchdog look.time) :: look.past <:+ history := by
  obtain ⟨k, hk⟩ := List.mem_iff_getElem?.1 hlook
  obtain ⟨h, past, j, hsuffix, hj, -⟩ := exists_looksAt hk
  obtain ⟨-, rfl, -, hlate⟩ := looksAt_spec hpoll (habides h past hsuffix) hj
  refine ⟨fun h' => hlate.1 h' ▸ hsuffix, fun hstop => ?_⟩
  exact ((habides _ _ hstop).2.2.2.2 rfl).2

/-- While the run has not been stopped, no look has found the watchdog expired. -/
theorem not_late_of_not_stopped (hstop : ¬ Stopped history) (hlook : look ∈ looks poll history) :
    ¬ Late timeout look.past look.time := by
  rw [late_iff_stopped habides hpoll hlook]
  exact fun hsuffix => hstop ⟨_, _, hsuffix.subset List.mem_cons_self⟩

/-- **The watchdog stops the run at a look exactly if this is the first one that comes too
late.** -/
theorem stopped_iff_first_late (k : Nat) :
    Happening.mark (.stopped .watchdog (k * poll)) ∈ history ↔
      (∃ look, (looks poll history)[k]? = some look ∧ Late timeout look.past look.time) ∧
        ∀ j < k, ∀ look, (looks poll history)[j]? = some look →
          ¬ Late timeout look.past look.time := by
  constructor
  · intro hmem
    obtain ⟨newer, past, rfl⟩ := List.append_of_mem hmem
    have hsuffix := List.suffix_append newer (.mark (.stopped .watchdog (k * poll)) :: past)
    obtain ⟨hstop, -, -, -, hwatchdog⟩ := habides _ _ hsuffix
    obtain ⟨htime, hlate⟩ := hwatchdog rfl
    obtain rfl : k = (looks poll past).length := Nat.eq_of_mul_eq_mul_right hpoll htime
    have hpast := habides.suffix ((List.suffix_cons _ past).trans hsuffix)
    -- the looks up to the stop are those that lie behind it and the one at which it comes
    obtain ⟨rest, hrest⟩ : looks poll past ++ [⟨_, past⟩] <+: looks poll _ := looks_prefix hsuffix
    rw [← hrest]
    refine ⟨⟨⟨_, past⟩, by simp, hlate⟩, fun j hj look hlook => ?_⟩
    rw [List.append_assoc, List.getElem?_append_left hj] at hlook
    exact not_late_of_not_stopped hpast hpoll hstop (List.mem_of_getElem? hlook)
  · rintro ⟨⟨look, hk, hlate⟩, -⟩
    have hsuffix := (late_iff_stopped habides hpoll (List.mem_of_getElem? hk)).1 hlate
    rw [time_of_look habides hpoll hk] at hsuffix
    exact hsuffix.subset List.mem_cons_self

/-- While the run has not been stopped, the last look has not come too late. -/
theorem nextLook_le (honce : Abides onceLaw history) (hstop : ¬ Stopped history) :
    nextLook poll history ≤ lastPulse history + allowance timeout history + poll := by
  induction history with
  | nil => simp [nextLook, looks]
  | cons h past ih =>
    obtain ⟨hlaw, habides⟩ := abides_cons.1 habides
    obtain ⟨hallowed, honce⟩ := abides_cons.1 honce
    have hpast := ih habides honce (mt (stopped_cons.2 ∘ .inr) hstop)
    by_cases hm : h.Unmarked
    · rwa [nextLook_unmarked hm, lastPulse_unmarked hm, allowance, allowed?_unmarked hm]
    obtain ⟨m, rfl⟩ : ∃ m, h = .mark m := by simpa [Happening.Unmarked] using hm
    cases m with
    | pulsed t =>
      rw [nextLook_pulsed]
      have := hlaw.2.1
      simp only [lastPulse]
      lia
    | extended d =>
      -- nothing had been allowed before, so now the time is no shorter
      have hmore : allowance timeout past ≤ allowance timeout (.mark (.extended d) :: past) := by
        rw [allowance, allowance, show allowed? past = none from hallowed]
        simp only [allowed?, Option.getD, Duration.saturatingAdd]
        lia
      rw [nextLook_extended]
      have hsame : lastPulse (.mark (.extended d) :: past) = lastPulse past := rfl
      lia
    | looked first next =>
      obtain ⟨-, rfl, k, rfl, hall⟩ := hlaw
      rw [nextLook_looked hpoll]
      change _ ≤ lastPulse past + allowance timeout past + poll
      -- the last of these looks has not found the watchdog expired
      rcases k with _ | k
      · lia
      · have := (hall k (Nat.lt_succ_self k)).2
        rw [Late] at this
        lia
    | stopped who t => exact absurd (stopped_cons.2 (.inl ⟨who, t, rfl⟩)) hstop

/-- While the run has not been stopped, the next look comes no later than the deadline. -/
theorem nextLook_le_deadline (honce : Abides onceLaw history) (hstop : ¬ Stopped history) :
    nextLook poll history ≤ deadline timeout poll history := by
  have hle := nextLook_le habides hpoll honce hstop
  rw [nextLook] at hle ⊢
  -- a later look would come more than one interval after the time that is allowed
  refine Nat.mul_le_mul_right poll (Nat.le_of_not_lt fun hlt => ?_)
  have hlast := (Nat.div_lt_iff_lt_mul hpoll).1 (Nat.lt_sub_of_add_lt hlt)
  rw [Nat.sub_mul] at hlast
  lia

/-- **The watchdog stops the run exactly at the deadline.** -/
theorem tripped_at_deadline (honce : Abides onceLaw history)
    (hsuffix : .mark (.stopped .watchdog t) :: past <:+ history) :
    t = deadline timeout poll past := by
  obtain ⟨hstop, -, -, -, hwatchdog⟩ := habides _ _ hsuffix
  obtain ⟨rfl, hlate⟩ := hwatchdog rfl
  have hpast := (List.suffix_cons _ past).trans hsuffix
  refine Nat.le_antisymm
    (nextLook_le_deadline (habides.suffix hpast) hpoll (honce.suffix hpast) hstop) ?_
  rw [nextLook, deadline]
  exact Nat.mul_le_mul_right poll ((Nat.div_lt_iff_lt_mul hpoll).2 hlate)

end Consequences

section Deadline

variable {timeout poll : Duration} {past : List Happening}

/-- The deadline comes later than what is allowed. -/
theorem lt_deadline (hpoll : 0 < poll) :
    lastPulse past + allowance timeout past < deadline timeout poll past := by
  have := Nat.lt_mul_div_succ (lastPulse past + allowance timeout past) hpoll
  rwa [Nat.mul_comm] at this

/-- The deadline comes at most one interval later. -/
theorem deadline_le : deadline timeout poll past ≤
    lastPulse past + allowance timeout past + poll := by
  rw [deadline, Nat.succ_mul]
  exact Nat.add_le_add_right (Nat.div_mul_le_self _ _) poll

end Deadline

end PageScript
