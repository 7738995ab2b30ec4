import PageScript.Vars.Levelled
import PageScript.Proofs.BindingLookups

/-!
# Scopes are levels

A name is only ever made where it is not bound yet, so no name is bound in two scopes. The scope in
which a name lives is then a matter of the name alone, and the whole stack says no more than one
map from names to a value and a level: `Vars.Refines`. Every operation on the stack is one on the
map, and answers the same.

While the stack is flat no scope is made or left, but those that are there stay. So the level of a
name counts scopes that were really made, and `setFlat` may come anywhere between entering a scope
and leaving it.
-/

namespace PageScript

/-! ## Operations -/

/-- What is done with variables. -/
inductive VarOp where
  | put (name value : String)
  | get (name : String)
  | contains (name : String)
  | remove (name : String)
  | push
  | pop
  | setFlat (flat : Bool)
  deriving DecidableEq, Repr

/-- What an operation on variables answers. -/
inductive VarAnswer where
  | done
  | value (value : Option String)
  | truth (holds : Bool)
  | failed (error : Error)
  deriving DecidableEq, Repr

namespace Vars

/-- Carries out one operation. What is removed is told with its value, and an operation that fails
leaves the stack as it was. -/
def step (v : Vars) : VarOp → VarAnswer × Vars
  | .put name value => (.done, v.put name value)
  | .get name => (.value (v.get? name), v)
  | .contains name => (.truth (v.contains name), v)
  | .remove name => (.value (v.get? name), v.erase name)
  | .push => (.done, v.push)
  | .pop =>
    match v.pop with
    | .ok v' => (.done, v')
    | .error e => (.failed e, v)
  | .setFlat flat => (.done, v.setFlat flat)

/-- Carries out operations one after another, and gathers what they answer. -/
def run (v : Vars) : List VarOp → List VarAnswer × Vars
  | [] => ([], v)
  | op :: rest => ((v.step op).1 :: ((v.step op).2.run rest).1, ((v.step op).2.run rest).2)

end Vars

namespace LevelMap

/-- Carries out one operation. -/
def step (m : LevelMap) : VarOp → VarAnswer × LevelMap
  | .put name value => (.done, m.put name value)
  | .get name => (.value (m.get? name), m)
  | .contains name => (.truth (m.get? name).isSome, m)
  | .remove name => (.value (m.get? name), m.erase name)
  | .push => (.done, m.push)
  | .pop =>
    match m.pop with
    | .ok m' => (.done, m')
    | .error e => (.failed e, m)
  | .setFlat flat => (.done, m.setFlat flat)

/-- Carries out operations one after another, and gathers what they answer. -/
def run (m : LevelMap) : List VarOp → List VarAnswer × LevelMap
  | [] => ([], m)
  | op :: rest => ((m.step op).1 :: ((m.step op).2.run rest).1, ((m.step op).2.run rest).2)

/-- Every name with its value, sorted by name. -/
def visible (m : LevelMap) : List (String × String) :=
  Bindings.sorted (m.bindings.map fun p => (p.1, p.2.value))

end LevelMap

namespace Vars

variable {v : Vars} {m : LevelMap} {s : Scope} {r scopes : List Scope} {name other value : String}

/-! ## Where a name is found -/

theorem find?_cons : find? name (s :: r) = (s.get? name).or (find? name r) := by
  rw [find?, List.findSome?_cons]
  cases h : s.get? name <;> simp [find?]

theorem find?_changeFirst_put (other : String) :
    find? other (changeFirst name (·.put name value) scopes) =
      if other = name then (find? name scopes).map fun _ => value else find? other scopes := by
  induction scopes with
  | nil => simp [changeFirst, find?]
  | cons s r ih =>
    rw [changeFirst]
    by_cases hs : s.has name = true
    · rw [if_pos hs, find?_cons, find?_cons, find?_cons, Bindings.get?_put]
      obtain ⟨old, hold⟩ := Option.isSome_iff_exists.1 hs
      by_cases h : other = name <;> simp [h, hold]
    · have hnone : s.get? name = none := by simpa [Bindings.has] using hs
      rw [if_neg hs, find?_cons, find?_cons, find?_cons, ih, hnone, Option.none_or]
      by_cases h : other = name <;> simp [h, hnone]

theorem scopes_put (v : Vars) (name value : String) :
    (v.put name value).scopes =
      if v.contains name then changeFirst name (·.put name value) v.scopes
      else v.newest.put name value :: v.older := by
  obtain ⟨newest, older, flat⟩ := v
  by_cases hnew : newest.has name = true
  · have hbound : contains ⟨newest, older, flat⟩ name = true := by
      obtain ⟨old, hold⟩ := Option.isSome_iff_exists.1 hnew
      simp [contains, get?, scopes, find?_cons, hold]
    simp [put, scopes, hnew, hbound, changeFirst]
  · by_cases hbound : contains ⟨newest, older, flat⟩ name = true
    · simp [put, scopes, hnew, hbound, changeFirst]
    · simp [put, scopes, hbound]

theorem scopes_erase (v : Vars) (name : String) :
    (v.erase name).scopes = changeFirst name (·.erase name) v.scopes := by
  obtain ⟨newest, older, flat⟩ := v
  by_cases h : newest.has name = true <;> simp [erase, scopes, changeFirst, h]

theorem get?_put (v : Vars) (name value other : String) :
    (v.put name value).get? other = if other = name then some value else v.get? other := by
  rw [get?, scopes_put, contains]
  by_cases hbound : (v.get? name).isSome = true
  · obtain ⟨old, hold⟩ := Option.isSome_iff_exists.1 hbound
    rw [if_pos hbound, find?_changeFirst_put]
    rw [get?] at hold
    rw [hold]
    rfl
  · have hnone : v.get? name = none := by simpa using hbound
    rw [if_neg hbound, find?_cons, Bindings.get?_put]
    by_cases h : other = name
    · simp [h]
    · simp [h, get?, scopes, find?_cons]

/-! ## No name is bound twice -/

/-- No name is bound in two scopes, nor twice in one. -/
inductive Apart : List Scope → Prop where
  | nil : Apart []
  | cons {s : Scope} {r : List Scope} : s.names.Nodup →
      (∀ name, s.has name = true → find? name r = none) → Apart r → Apart (s :: r)

theorem has_put_iff : (s.put name value).has other = true ↔ other = name ∨ s.has other = true := by
  rw [Bindings.has, Bindings.get?_put]
  by_cases h : other = name <;> simp [h, Bindings.has]

theorem has_erase (h : (s.erase name).has other = true) : s.has other = true := by
  rw [Bindings.has, Bindings.get?_erase] at h
  by_cases heq : other = name
  · simp [heq] at h
  · rwa [if_neg heq] at h

namespace Apart

theorem tail (h : Apart (s :: r)) : Apart r := by
  cases h with
  | cons _ _ hr => exact hr

theorem pairwise (h : Apart scopes) :
    scopes.Pairwise fun s s' => ∀ name, ¬(s.has name = true ∧ s'.has name = true) := by
  induction h with
  | nil => exact .nil
  | cons _ hnone _ ih =>
    refine List.pairwise_cons.2 ⟨fun s' hs' name hboth => ?_, ih⟩
    have hrest := hnone name hboth.1
    rw [find?, List.findSome?_eq_none_iff] at hrest
    simp [Bindings.has, hrest s' hs'] at hboth

/-- A scope may be changed without a name that is bound elsewhere coming into it. -/
theorem put_newest (h : Apart (s :: r)) (hname : s.has name = true ∨ find? name r = none) :
    Apart (s.put name value :: r) := by
  cases h with
  | cons hnodup hnone hr =>
    refine .cons (Bindings.nodup_names_put hnodup ..) (fun other hother => ?_) hr
    rcases has_put_iff.1 hother with rfl | hother
    · exact hname.elim (hnone _) id
    · exact hnone other hother

theorem changeFirst_put (h : Apart scopes) :
    Apart (changeFirst name (·.put name value) scopes) := by
  induction h with
  | nil => exact .nil
  | @cons s r hnodup hnone hr ih =>
    rw [changeFirst]
    by_cases hs : s.has name = true
    · rw [if_pos hs]
      exact put_newest (.cons hnodup hnone hr) (.inl hs)
    · rw [if_neg hs]
      refine .cons hnodup (fun other hother => ?_) ih
      have hne : other ≠ name := by
        rintro rfl
        exact hs hother
      rw [find?_changeFirst_put, if_neg hne]
      exact hnone other hother

/-- Where a name is bound at most once, nothing is uncovered by its removal. -/
theorem find?_changeFirst_erase (h : Apart scopes) (other : String) :
    find? other (changeFirst name (·.erase name) scopes) =
      if other = name then none else find? other scopes := by
  induction h with
  | nil => simp [changeFirst, find?]
  | @cons s r hnodup hnone hr ih =>
    rw [changeFirst]
    by_cases hs : s.has name = true
    · rw [if_pos hs, find?_cons, find?_cons, Bindings.get?_erase]
      by_cases heq : other = name
      · rw [if_pos heq, if_pos heq, Option.none_or, heq]
        exact hnone name hs
      · rw [if_neg heq, if_neg heq]
    · rw [if_neg hs, find?_cons, find?_cons, ih]
      by_cases heq : other = name
      · have hother : s.get? other = none := by simpa [heq, Bindings.has] using hs
        rw [if_pos heq, if_pos heq, hother, Option.none_or]
      · rw [if_neg heq, if_neg heq]

theorem changeFirst_erase (h : Apart scopes) :
    Apart (changeFirst name (·.erase name) scopes) := by
  induction h with
  | nil => exact .nil
  | @cons s r hnodup hnone hr ih =>
    rw [changeFirst]
    by_cases hs : s.has name = true
    · rw [if_pos hs]
      exact .cons (Bindings.nodup_names_erase hnodup name)
        (fun other hother => hnone other (has_erase hother)) hr
    · rw [if_neg hs]
      refine .cons hnodup (fun other hother => ?_) ih
      rw [hr.find?_changeFirst_erase]
      split
      · rfl
      · exact hnone other hother

theorem put (h : Apart v.scopes) (name value : String) : Apart (v.put name value).scopes := by
  rw [scopes_put]
  by_cases hbound : v.contains name = true
  · rw [if_pos hbound]
    exact h.changeFirst_put
  · have hnone : v.get? name = none := by simpa [contains] using hbound
    rw [get?, Vars.scopes, find?_cons, Option.or_eq_none_iff] at hnone
    rw [if_neg hbound]
    exact put_newest h (.inr hnone.2)

theorem erase (h : Apart v.scopes) (name : String) : Apart (v.erase name).scopes := by
  rw [scopes_erase]
  exact h.changeFirst_erase

theorem push (h : Apart v.scopes) : Apart v.push.scopes := by
  cases hflat : v.flat with
  | true =>
    rw [Vars.push, if_pos hflat]
    exact h
  | false =>
    rw [scopes_push v hflat]
    exact .cons .nil (fun name hname => by simp [Bindings.has] at hname) h

end Apart

theorem get?_erase (h : Apart v.scopes) (name other : String) :
    (v.erase name).get? other = if other = name then none else v.get? other := by
  rw [get?, scopes_erase]
  exact h.find?_changeFirst_erase other

theorem pop_cases (v : Vars) :
    v.flat = true ∧ v.pop = .ok v ∨
    v.flat = false ∧ v.older = [] ∧ v.pop = .error .scopeUnderflow ∨
    ∃ s r, v.flat = false ∧ v.older = s :: r ∧ v.pop = .ok { v with newest := s, older := r } := by
  obtain ⟨newest, older, flat⟩ := v
  cases flat with
  | true => exact .inl ⟨rfl, rfl⟩
  | false =>
    cases older with
    | nil => exact .inr (.inl ⟨rfl, rfl, rfl⟩)
    | cons s r => exact .inr (.inr ⟨s, r, rfl, rfl, rfl⟩)

/-! ## Scopes against levels -/

/-- The value of a name and the level of the first scope that binds it; the base is level one. -/
def levelled? (name : String) : List Scope → Option Levelled
  | [] => none
  | s :: r =>
    match s.get? name with
    | some value => some ⟨value, r.length + 1⟩
    | none => levelled? name r

theorem levelled?_cons :
    levelled? name (s :: r) =
      ((s.get? name).map fun value => ⟨value, r.length + 1⟩).or (levelled? name r) := by
  rw [levelled?]
  cases s.get? name <;> rfl

theorem find?_eq_levelled? : find? name scopes = (levelled? name scopes).map (·.value) := by
  induction scopes with
  | nil => rfl
  | cons s r ih =>
    rw [find?_cons, levelled?_cons, ih]
    cases s.get? name <;> rfl

theorem level_le {l : Levelled} (h : levelled? name scopes = some l) : l.level ≤ scopes.length := by
  induction scopes with
  | nil => cases h
  | cons s r ih =>
    rw [levelled?_cons] at h
    cases hs : s.get? name with
    | some value =>
      rw [hs, Option.map_some, Option.some_or] at h
      obtain rfl := Option.some.inj h
      simp
    | none =>
      rw [hs, Option.map_none, Option.none_or] at h
      exact Nat.le_succ_of_le (ih h)

theorem levelled?_changeFirst_put (other : String) :
    levelled? other (changeFirst name (·.put name value) scopes) =
      if other = name then (levelled? name scopes).map fun l => ⟨value, l.level⟩
      else levelled? other scopes := by
  induction scopes with
  | nil => simp [changeFirst, levelled?]
  | cons s r ih =>
    rw [changeFirst]
    by_cases hs : s.has name = true
    · obtain ⟨old, hold⟩ := Option.isSome_iff_exists.1 hs
      rw [if_pos hs, levelled?_cons, levelled?_cons, levelled?_cons, Bindings.get?_put]
      by_cases h : other = name <;> simp [h, hold]
    · have hnone : s.get? name = none := by simpa [Bindings.has] using hs
      rw [if_neg hs, levelled?_cons, levelled?_cons, levelled?_cons, ih, hnone,
        length_changeFirst]
      by_cases h : other = name <;> simp [h, hnone]

theorem Apart.levelled?_changeFirst_erase (h : Apart scopes) (other : String) :
    levelled? other (changeFirst name (·.erase name) scopes) =
      if other = name then none else levelled? other scopes := by
  by_cases heq : other = name
  · have hnone : find? other (changeFirst name (·.erase name) scopes) = none :=
      (h.find?_changeFirst_erase other).trans (if_pos heq)
    rw [find?_eq_levelled?, Option.map_eq_none_iff] at hnone
    rw [if_pos heq, hnone]
  · -- No other name is touched, whether or not names are bound twice.
    rw [if_neg heq]
    clear h
    induction scopes with
    | nil => rfl
    | cons s r ih =>
      rw [changeFirst]
      by_cases hs : s.has name = true
      · rw [if_pos hs, levelled?_cons, levelled?_cons, Bindings.get?_erase, if_neg heq]
      · rw [if_neg hs, levelled?_cons, levelled?_cons, ih, length_changeFirst]

/-- To leave a scope is to forget the names of its level. -/
theorem Apart.levelled?_older (h : Apart (s :: r)) :
    levelled? name r = (levelled? name (s :: r)).filter fun l => l.level ≠ r.length + 1 := by
  cases h with
  | cons _ hnone _ =>
    rw [levelled?_cons]
    cases hs : s.get? name with
    | some value =>
      have hrest := hnone name (by simp [Bindings.has, hs])
      rw [find?_eq_levelled?, Option.map_eq_none_iff] at hrest
      rw [hrest, Option.map_some, Option.some_or, Option.filter_some]
      simp
    | none =>
      cases hr : levelled? name r with
      | none => rfl
      | some l =>
        -- A name that is bound further out lives at a level below the newest.
        have hlt := level_le hr
        have hne : l.level ≠ r.length + 1 := by omega
        rw [Option.map_none, Option.none_or, Option.filter_some, if_pos (decide_eq_true hne)]

/-- A stack of scopes says no more than a map with levels: no name is bound twice, and the map has
each name with its value at the level of the scope in which it lives. -/
structure Refines (v : Vars) (m : LevelMap) : Prop where
  apart : Apart v.scopes
  nodup : m.bindings.names.Nodup
  get?_eq : ∀ name, m.bindings.get? name = levelled? name v.scopes
  level_eq : m.level = v.depth
  flat_eq : m.flat = v.flat

namespace Refines

theorem new : ({} : Vars).Refines {} where
  apart := .cons .nil (fun _ _ => rfl) .nil
  nodup := .nil
  get?_eq _ := rfl
  level_eq := rfl
  flat_eq := rfl

theorem value_eq (h : v.Refines m) (name : String) : v.get? name = m.get? name := by
  rw [LevelMap.get?, h.get?_eq]
  exact find?_eq_levelled?

theorem put (h : v.Refines m) (name value : String) :
    (v.put name value).Refines (m.put name value) where
  apart := h.apart.put name value
  nodup := Bindings.nodup_names_put h.nodup ..
  get?_eq other := by
    rw [LevelMap.put, Bindings.get?_put, h.get?_eq, h.get?_eq, scopes_put, contains, get?,
      find?_eq_levelled?]
    cases hold : levelled? name v.scopes with
    | some l =>
      -- A bound name keeps its level.
      rw [Option.isSome_map, Option.isSome_some, if_pos rfl, levelled?_changeFirst_put, hold]
      rfl
    | none =>
      -- A new name lives in the newest scope, at the level reached.
      rw [Option.isSome_map, Option.isSome_none, if_neg Bool.false_ne_true, levelled?_cons,
        Bindings.get?_put, h.level_eq]
      by_cases heq : other = name
      · rw [if_pos heq, if_pos heq]
        rfl
      · rw [if_neg heq, if_neg heq]
        exact levelled?_cons
  level_eq := h.level_eq.trans (depth_put ..).symm
  flat_eq := h.flat_eq.trans (flat_put ..).symm

theorem erase (h : v.Refines m) (name : String) : (v.erase name).Refines (m.erase name) where
  apart := h.apart.erase name
  nodup := Bindings.nodup_names_erase h.nodup name
  get?_eq other := by
    rw [LevelMap.erase, Bindings.get?_erase, h.get?_eq, scopes_erase,
      h.apart.levelled?_changeFirst_erase]
  level_eq := h.level_eq.trans (depth_erase ..).symm
  flat_eq := h.flat_eq.trans (flat_erase ..).symm

theorem push (h : v.Refines m) : v.push.Refines m.push := by
  cases hflat : v.flat with
  | true =>
    rw [Vars.push, LevelMap.push, h.flat_eq, hflat]
    exact h
  | false =>
    refine ⟨h.apart.push, ?_, fun name => ?_, ?_, ?_⟩ <;>
      rw [LevelMap.push, h.flat_eq, hflat, if_neg Bool.false_ne_true]
    · exact h.nodup
    · rw [scopes_push v hflat]
      exact h.get?_eq name
    · rw [depth, scopes_push v hflat]
      exact congrArg (· + 1) h.level_eq
    · rw [Vars.push, hflat]
      rfl

/-- Both sides leave a scope, or neither does. -/
theorem pop (h : v.Refines m) :
    v.pop = .error .scopeUnderflow ∧ m.pop = .error .scopeUnderflow ∨
    ∃ v' m', v.pop = .ok v' ∧ m.pop = .ok m' ∧ v'.Refines m' := by
  have hlevel : m.level = v.older.length + 1 := h.level_eq
  rcases v.pop_cases with ⟨hflat, hpop⟩ | ⟨hflat, hbase, hpop⟩ | ⟨s, r, hflat, hr, hpop⟩
  · refine .inr ⟨v, m, hpop, ?_, h⟩
    rw [LevelMap.pop, if_pos (h.flat_eq.trans hflat)]
  · refine .inl ⟨hpop, ?_⟩
    rw [LevelMap.pop, h.flat_eq, hflat, if_neg Bool.false_ne_true, if_pos]
    rw [hlevel, hbase]
    exact Nat.le_refl 1
  · have hnext : ¬m.level ≤ 1 := by
      rw [hlevel, hr, List.length_cons]
      omega
    -- With the newest scope go just the names of its level, for none of them is bound below.
    have hapart : Apart (v.newest :: v.older) := h.apart
    refine .inr ⟨_, _, hpop, by
      rw [LevelMap.pop, h.flat_eq, hflat, if_neg Bool.false_ne_true, if_neg hnext], ?_⟩
    refine ⟨?_, Bindings.nodup_names_filter h.nodup _, fun name => ?_, ?_, hflat.symm⟩
    · show Apart (s :: r)
      rw [← hr]
      exact hapart.tail
    · show _ = levelled? name (s :: r)
      rw [Bindings.get?_filter h.nodup, h.get?_eq, ← hr, hapart.levelled?_older, hlevel]
      rfl
    · show m.level - 1 = r.length + 1
      rw [hlevel, hr, List.length_cons]
      rfl

theorem setFlat (h : v.Refines m) (flat : Bool) : (v.setFlat flat).Refines (m.setFlat flat) :=
  ⟨h.apart, h.nodup, h.get?_eq, h.level_eq, rfl⟩

/-- One operation answers the same on both sides, and leaves them alike. -/
theorem step (h : v.Refines m) (op : VarOp) :
    (v.step op).1 = (m.step op).1 ∧ (v.step op).2.Refines (m.step op).2 := by
  cases op with
  | put name value => exact ⟨rfl, h.put name value⟩
  | get name => exact ⟨congrArg VarAnswer.value (h.value_eq name), h⟩
  | contains name =>
    refine ⟨congrArg VarAnswer.truth ?_, h⟩
    rw [contains, h.value_eq]
  | remove name => exact ⟨congrArg VarAnswer.value (h.value_eq name), h.erase name⟩
  | push => exact ⟨rfl, h.push⟩
  | pop =>
    rcases h.pop with ⟨hv, hm⟩ | ⟨v', m', hv, hm, h'⟩
    · rw [Vars.step, LevelMap.step, hv, hm]
      exact ⟨rfl, h⟩
    · rw [Vars.step, LevelMap.step, hv, hm]
      exact ⟨rfl, h'⟩
  | setFlat flat => exact ⟨rfl, h.setFlat flat⟩

theorem run (h : v.Refines m) (ops : List VarOp) :
    (v.run ops).1 = (m.run ops).1 ∧ (v.run ops).2.Refines (m.run ops).2 := by
  induction ops generalizing v m with
  | nil => exact ⟨rfl, h⟩
  | cons op rest ih =>
    have hstep := h.step op
    have hrest := ih hstep.2
    exact ⟨congrArg₂ List.cons hstep.1 hrest.1, hrest.2⟩

end Refines

/-! ## What can be seen -/

theorem get?_merged (h : Apart scopes) (name : String) :
    Bindings.get? (merged scopes) name = find? name scopes := by
  induction h with
  | nil => rfl
  | @cons s r hnodup _ _ ih =>
    -- No name stands twice in a scope, so its pairs may be put in either order.
    have hs : s.reverse.lookup name = s.get? name :=
      (Bindings.get?_eq_of_perm hnodup (List.reverse_perm s).symm name).symm
    rw [merged, List.foldr_cons, Bindings.get?_putAll, hs, find?_cons]
    exact congrArg _ ih

theorem nodup_names_merged (scopes : List Scope) : (Bindings.names (merged scopes)).Nodup := by
  induction scopes with
  | nil => exact .nil
  | cons s r ih => exact Bindings.nodup_names_putAll ih s

theorem Refines.visible_eq (h : v.Refines m) : v.visible = m.visible := by
  have hnames := Bindings.names_map Levelled.value m.bindings
  refine Bindings.sorted_eq (nodup_names_merged v.scopes) (hnames ▸ h.nodup) fun name => ?_
  rw [get?_merged h.apart, Bindings.get?_map]
  exact h.value_eq name

theorem Refines.names_eq (h : v.Refines m) :
    v.visible.map Prod.fst = m.names.mergeSort fun n n' => decide (n ≤ n') := by
  rw [h.visible_eq, LevelMap.visible, LevelMap.names, ← Bindings.names_map Levelled.value]
  exact Bindings.names_sorted _

/-- An operation binds no name but the one that it puts. -/
theorem get?_step_eq_none (h : Apart v.scopes) (hnone : v.get? name = none) {op : VarOp}
    (hop : ∀ value, op ≠ .put name value) : (v.step op).2.get? name = none := by
  cases op with
  | put other value =>
    have hne : name ≠ other := by
      rintro rfl
      exact hop value rfl
    exact (get?_put v other value name).trans ((if_neg hne).trans hnone)
  | remove other =>
    refine (get?_erase h other name).trans ?_
    rw [hnone, ite_self]
  | push => exact (get?_push v name).trans hnone
  | pop =>
    rcases v.pop_cases with ⟨-, hpop⟩ | ⟨-, -, hpop⟩ | ⟨s, r, -, hr, hpop⟩
    · rw [step, hpop]
      exact hnone
    · rw [step, hpop]
      exact hnone
    · rw [step, hpop]
      rw [get?, scopes, find?_cons, hr, Option.or_eq_none_iff] at hnone
      exact hnone.2
  | _ => exact hnone

theorem get?_run_eq_none (h : v.Refines m) (hnone : v.get? name = none) {ops : List VarOp}
    (hops : ∀ value, .put name value ∉ ops) : (v.run ops).2.get? name = none := by
  induction ops generalizing v m with
  | nil => exact hnone
  | cons op rest ih =>
    refine ih (h.step op).2 (get?_step_eq_none h.apart hnone fun value heq => ?_) fun value hmem =>
      hops value (List.mem_cons_of_mem _ hmem)
    exact hops value (heq ▸ List.mem_cons_self ..)

/-- **A stack of scopes is one map with levels.** Whatever is done with variables, in whatever
order, each answer is that of one map from names to a value and a level. After it the depth of the
stack is the level reached, and the names are those of the map, each with its value. No name is
bound in two scopes; so what has been removed stays unbound until it is put again. -/
theorem run_levelled (ops : List VarOp) :
    let v := (run {} ops).2
    let m := (LevelMap.run {} ops).2
    (run {} ops).1 = (LevelMap.run {} ops).1 ∧
    (v.depth = m.level ∧ v.flat = m.flat) ∧
    (v.visible = m.visible ∧
      v.visible.map Prod.fst = m.names.mergeSort fun n n' => decide (n ≤ n')) ∧
    (v.scopes.Pairwise fun s s' => ∀ name, ¬(s.has name = true ∧ s'.has name = true)) ∧
    ∀ name later, (∀ value, .put name value ∉ later) →
      ((v.erase name).run later).2.get? name = none := by
  intro v m
  obtain ⟨hanswers, h⟩ : _ ∧ v.Refines m := Refines.new.run ops
  refine ⟨hanswers, ⟨h.level_eq.symm, h.flat_eq.symm⟩, ⟨h.visible_eq, h.names_eq⟩,
    h.apart.pairwise, fun name later hlater => ?_⟩
  have hgone : (v.erase name).get? name = none :=
    (get?_erase h.apart name name).trans (if_pos rfl)
  exact get?_run_eq_none (h.erase name) hgone hlater

/-- A name of the base that is removed from within a scope does not come back when it is left. -/
theorem removed_within :
    let v := (run {} [.put "a" "1", .push]).2
    v.get? "a" = some "1" ∧ ((v.erase "a").run [.get "b", .pop, .pop]).2.get? "a" = none :=
  ⟨rfl, (run_levelled [.put "a" "1", .push]).2.2.2.2 "a" [.get "b", .pop, .pop] (by simp)⟩

/-- Scopes that were made outside flat mode are left when it is over. -/
example :
    (run {} [.push, .put "a" "1", .setFlat true, .push, .pop, .pop, .get "a", .setFlat false, .pop,
      .get "a", .pop]).1 =
    [.done, .done, .done, .done, .done, .done, .value (some "1"), .done, .done, .value none,
      .failed .scopeUnderflow] := by
  rfl

end Vars
end PageScript
