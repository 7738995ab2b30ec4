import PageScript.Proofs.ScopeLevels

/-!
# Flattened stacks

A flattened copy has all that is visible in one scope, so it cannot leave the scopes that the stack
had. As long as no more scopes are left than were entered since, this never shows. In terms of
levels: the copy is the same map with every level lowered by as much, but for the names of the
levels that have become one, and these are only forgotten when more is left than was entered.

On a stack in which one name hides another this is false: to remove a name from the stack uncovers
what it has hidden, which the copy no longer has. But a stack that has been made by its operations
hides nothing.
-/

namespace PageScript

variable {v : Vars} {m m' : LevelMap} {d : Nat}

/-! ## Stacks that can be made -/

namespace Vars

/-- A stack that comes from a new one by its operations, copies included. -/
inductive Reached : Vars → Prop where
  | new : Reached {}
  | step {v : Vars} (h : Reached v) (op : VarOp) : Reached (v.step op).2
  | flattened {v : Vars} (h : Reached v) : Reached v.flattened

/-- The level map of a flattened stack: all that is visible, at the first level. -/
def lowest (v : Vars) : LevelMap where
  bindings := (merged v.scopes).map fun p => (p.1, ⟨p.2, 1⟩)
  level := 1
  flat := v.flat

theorem get?_lowest (h : Apart v.scopes) (name : String) :
    v.lowest.bindings.get? name = (v.get? name).map fun value => ⟨value, 1⟩ := by
  have hmap := Bindings.get?_map (Levelled.mk · 1) (merged v.scopes) name
  rw [get?_merged h] at hmap
  exact hmap

theorem refines_flattened (h : Apart v.scopes) : v.flattened.Refines v.lowest where
  apart := .cons (nodup_names_merged v.scopes) (fun _ _ => rfl) .nil
  nodup := by
    have hnames := Bindings.names_map (Levelled.mk · 1) (merged v.scopes)
    exact hnames ▸ nodup_names_merged v.scopes
  get?_eq name := by
    rw [get?_lowest h, flattened, scopes, levelled?_cons, get?_merged h, levelled?, Option.or_none]
    rfl
  level_eq := rfl
  flat_eq := rfl

/-- What can be made of a new stack is one map with levels. -/
theorem Reached.refines (h : v.Reached) : ∃ m, v.Refines m := by
  induction h with
  | new => exact ⟨{}, .new⟩
  | step _ op ih =>
    obtain ⟨m, hm⟩ := ih
    exact ⟨(m.step op).2, (hm.step op).2⟩
  | @flattened v _ ih =>
    obtain ⟨m, hm⟩ := ih
    exact ⟨v.lowest, refines_flattened hm.apart⟩

theorem Reached.run (h : v.Reached) (ops : List VarOp) : (v.run ops).2.Reached := by
  induction ops generalizing v with
  | nil => exact h
  | cons op rest ih => exact ih (h.step op)

end Vars

/-! ## Levels that are lowered -/

/-- A level is lowered, but not below the first. -/
def Levelled.lowered (d : Nat) (l : Levelled) : Levelled :=
  ⟨l.value, max 1 (l.level - d)⟩

namespace LevelMap

/-- One map is another with every level lowered by as much; neither is flat. -/
structure Lowered (d : Nat) (m m' : LevelMap) : Prop where
  level_eq : m.level = m'.level + d
  one_le : 1 ≤ m'.level
  flat : m.flat = false
  flat' : m'.flat = false
  nodup : m.bindings.names.Nodup
  nodup' : m'.bindings.names.Nodup
  get?_eq : ∀ name, m'.bindings.get? name = (m.bindings.get? name).map (·.lowered d)

namespace Lowered

theorem value_eq (h : Lowered d m m') (name : String) : m'.get? name = m.get? name := by
  rw [get?, get?, h.get?_eq, Option.map_map]
  rfl

theorem put (h : Lowered d m m') (name value : String) :
    Lowered d (m.put name value) (m'.put name value) where
  level_eq := h.level_eq
  one_le := h.one_le
  flat := h.flat
  flat' := h.flat'
  nodup := Bindings.nodup_names_put h.nodup ..
  nodup' := Bindings.nodup_names_put h.nodup' ..
  get?_eq other := by
    have hlevel := h.level_eq
    have hone := h.one_le
    rw [LevelMap.put, LevelMap.put, Bindings.get?_put, Bindings.get?_put, h.get?_eq, h.get?_eq]
    by_cases heq : other = name
    · rw [if_pos heq, if_pos heq, Option.map_some]
      cases m.bindings.get? name with
      | some l => rfl
      | none =>
        -- A new name is made at the level reached, which is lowered itself.
        have hnew : max 1 (m.level - d) = m'.level := by omega
        simp [Levelled.lowered, hnew]
    · rw [if_neg heq, if_neg heq]

theorem erase (h : Lowered d m m') (name : String) : Lowered d (m.erase name) (m'.erase name) where
  level_eq := h.level_eq
  one_le := h.one_le
  flat := h.flat
  flat' := h.flat'
  nodup := Bindings.nodup_names_erase h.nodup name
  nodup' := Bindings.nodup_names_erase h.nodup' name
  get?_eq other := by
    rw [LevelMap.erase, LevelMap.erase, Bindings.get?_erase, Bindings.get?_erase, h.get?_eq]
    by_cases heq : other = name
    · rw [if_pos heq, if_pos heq, Option.map_none]
    · rw [if_neg heq, if_neg heq]

theorem push (h : Lowered d m m') : Lowered d m.push m'.push := by
  have hlevel := h.level_eq
  rw [LevelMap.push, LevelMap.push, h.flat, h.flat']
  refine ⟨?_, Nat.le_add_left .., rfl, rfl, h.nodup, h.nodup', h.get?_eq⟩
  show m.level + 1 = m'.level + 1 + d
  omega

/-- To go down one level is to go down one lowered level, as long as one is left above the first. -/
theorem pop (h : Lowered d m m') (hm' : 1 < m'.level) :
    ∃ n n', m.pop = .ok n ∧ m'.pop = .ok n' ∧ Lowered d n n' ∧ n'.level = m'.level - 1 := by
  have hlevel := h.level_eq
  have hm : ¬m.level ≤ 1 := by omega
  refine ⟨_, _, by rw [LevelMap.pop, h.flat, if_neg Bool.false_ne_true, if_neg hm],
    by rw [LevelMap.pop, h.flat', if_neg Bool.false_ne_true, if_neg (Nat.not_le.2 hm')], ?_, rfl⟩
  refine ⟨?_, Nat.le_sub_of_add_le hm', rfl, rfl, Bindings.nodup_names_filter h.nodup _,
    Bindings.nodup_names_filter h.nodup' _, fun name => ?_⟩
  · show m.level - 1 = m'.level - 1 + d
    omega
  · rw [Bindings.get?_filter h.nodup, Bindings.get?_filter h.nodup', h.get?_eq]
    cases m.bindings.get? name with
    | none => rfl
    | some l =>
      -- The names of the level left are the same, since that level is above the first.
      have hsame : max 1 (l.level - d) ≠ m'.level ↔ l.level ≠ m.level := by omega
      rw [Option.map_some, Option.filter_some, Option.filter_some]
      simp only [Levelled.lowered, decide_eq_true_eq, hsame]
      split <;> rfl

/-- One operation answers the same on both sides, if it does not leave the first lowered level. -/
theorem step (h : Lowered d m m') {op : VarOp} (hset : ∀ flat, op ≠ .setFlat flat)
    (hpop : op = .pop → 1 < m'.level) :
    (m'.step op).1 = (m.step op).1 ∧ Lowered d (m.step op).2 (m'.step op).2 ∧
      (m'.step op).2.level + [op].count .pop = m'.level + [op].count .push := by
  cases op with
  | put name value => exact ⟨rfl, h.put name value, rfl⟩
  | get name => exact ⟨congrArg VarAnswer.value (h.value_eq name), h, rfl⟩
  | contains name =>
    refine ⟨congrArg VarAnswer.truth ?_, h, rfl⟩
    rw [h.value_eq]
  | remove name => exact ⟨congrArg VarAnswer.value (h.value_eq name), h.erase name, rfl⟩
  | push =>
    refine ⟨rfl, h.push, ?_⟩
    rw [LevelMap.step, LevelMap.push, h.flat']
    rfl
  | pop =>
    obtain ⟨n, n', hm, hm', hn, hlevel⟩ := h.pop (hpop rfl)
    have hlt := hpop rfl
    rw [LevelMap.step, LevelMap.step, hm, hm']
    refine ⟨rfl, hn, ?_⟩
    show n'.level + 1 = m'.level + 0
    omega
  | setFlat flat => exact absurd rfl (hset flat)

theorem run (h : Lowered d m m') {ops : List VarOp} (hset : ∀ flat, .setFlat flat ∉ ops)
    (hpops : ∀ before, before <+: ops → before.count .pop < before.count .push + m'.level) :
    (m'.run ops).1 = (m.run ops).1 ∧ Lowered d (m.run ops).2 (m'.run ops).2 := by
  induction ops generalizing m m' with
  | nil => exact ⟨rfl, h⟩
  | cons op rest ih =>
    have hfirst := hpops [op] ⟨rest, rfl⟩
    have hmoves : ∀ flat, op ≠ .setFlat flat := by
      rintro flat rfl
      exact hset flat (List.mem_cons_self ..)
    have hleaves : op = .pop → 1 < m'.level := by
      rintro rfl
      simpa using hfirst
    obtain ⟨hanswer, hnext, hlevel⟩ := h.step hmoves hleaves
    -- What the first operation does to the level is what it adds to the counts of the rest.
    obtain ⟨hanswers, hend⟩ := ih hnext (fun flat hmem => hset flat (List.mem_cons_of_mem _ hmem))
      fun before hbefore => by
        have hall := hpops (op :: before) (List.cons_prefix_cons.2 ⟨rfl, hbefore⟩)
        have hsplit (which : VarOp) :
            (op :: before).count which = [op].count which + before.count which := by
          rw [← List.count_append, List.singleton_append]
        rw [hsplit, hsplit] at hall
        omega
    exact ⟨congrArg₂ List.cons hanswer hanswers, hend⟩

theorem visible_eq (h : Lowered d m m') : m'.visible = m.visible := by
  have hnames := Bindings.names_map Levelled.value m.bindings
  have hnames' := Bindings.names_map Levelled.value m'.bindings
  refine Bindings.sorted_eq (hnames' ▸ h.nodup') (hnames ▸ h.nodup) fun name => ?_
  rw [Bindings.get?_map, Bindings.get?_map]
  exact h.value_eq name

end Lowered
end LevelMap

namespace Vars

/-- A flattened stack is the stack with its levels lowered to the first. -/
theorem Refines.lowered (h : v.Refines m) (hflat : v.flat = false) :
    LevelMap.Lowered (v.depth - 1) m v.lowest where
  level_eq := by
    have hdepth : 1 ≤ v.depth := Nat.le_add_left ..
    show m.level = 1 + (v.depth - 1)
    rw [h.level_eq]
    omega
  one_le := Nat.le_refl 1
  flat := h.flat_eq.trans hflat
  flat' := hflat
  nodup := h.nodup
  nodup' := (refines_flattened h.apart).nodup
  get?_eq name := by
    rw [get?_lowest h.apart, get?, find?_eq_levelled?, h.get?_eq]
    cases hl : levelled? name v.scopes with
    | none => rfl
    | some l =>
      have hle : l.level ≤ v.depth := level_le hl
      have hone : max 1 (l.level - (v.depth - 1)) = 1 := by omega
      simp [Levelled.lowered, hone]

/-- **A flattened copy goes on like its stack.** Take any stack that its operations can make and
that is not flat in the end, and go on with it and with its flattened copy in the same way, never
leaving more scopes than have been entered since. Both answer the same to everything, and the same
names are visible with the same values in the end. -/
theorem run_flattened (h : v.Reached) (hflat : v.flat = false) {ops : List VarOp}
    (hset : ∀ flat, .setFlat flat ∉ ops)
    (hpops : ∀ before, before <+: ops → before.count .pop ≤ before.count .push) :
    (v.flattened.run ops).1 = (v.run ops).1 ∧
      (v.flattened.run ops).2.visible = (v.run ops).2.visible := by
  obtain ⟨m, hm⟩ := h.refines
  obtain ⟨hstack, hstackEnd⟩ := hm.run ops
  obtain ⟨hcopy, hcopyEnd⟩ := (refines_flattened hm.apart).run ops
  obtain ⟨hlowered, hloweredEnd⟩ := (hm.lowered hflat).run hset fun before hbefore =>
    Nat.lt_succ_of_le (hpops before hbefore)
  refine ⟨hcopy.trans (hlowered.trans hstack.symm), ?_⟩
  rw [hcopyEnd.visible_eq, hloweredEnd.visible_eq, hstackEnd.visible_eq]

/-- A copy of two scopes, and a third one on top of both. -/
theorem run_flattened_third :
    let v := (run {} [.put "a" "1", .push, .put "b" "2"]).2
    let ops := [VarOp.push, .put "c" "3", .put "b" "4", .remove "a", .pop, .get "a"]
    (v.flattened.run ops).1 = (v.run ops).1 ∧
      (v.flattened.run ops).2.visible = (v.run ops).2.visible :=
  run_flattened (Reached.new.run _) rfl (by simp) (by
    intro before hbefore
    rw [← List.mem_inits] at hbefore
    revert before
    decide)

/-- Where one name hides another, the copy does not go on like the stack. -/
example :
    let v : Vars := { newest := [("a", "inner")], older := [[("a", "outer")]] }
    (v.flattened.run [.remove "a", .get "a"]).1 ≠ (v.run [.remove "a", .get "a"]).1 := by
  decide

end Vars
end PageScript
