/-!
# Bindings

Finite maps from names to values, as lists of pairs. A name that is put again keeps its place, so a
list in which no name stands twice stays one. Looking a name up sees its first pair.
-/

namespace PageScript

/-- Pairs of a name and what it is bound to. -/
abbrev Bindings (α : Type) := List (String × α)

namespace Bindings

variable {α : Type}

/-- What a name is bound to. -/
def get? (b : Bindings α) (name : String) : Option α :=
  b.lookup name

/-- Whether a name is bound. -/
def has (b : Bindings α) (name : String) : Bool :=
  (b.get? name).isSome

/-- Binds a name, in place if it is bound already and at the end if not. -/
def put (name : String) (value : α) : Bindings α → Bindings α
  | [] => [(name, value)]
  | (n, v) :: r => if n = name then (n, value) :: r else (n, v) :: put name value r

/-- Unbinds a name. -/
def erase (name : String) (b : Bindings α) : Bindings α :=
  b.filter fun p => p.1 ≠ name

/-- The bound names, in order. -/
def names (b : Bindings α) : List String :=
  b.map (·.1)

/-- The pairs sorted by name. -/
def sorted (b : Bindings α) : Bindings α :=
  b.mergeSort fun p q => decide (p.1 ≤ q.1)

/-- Binds each of some pairs in turn; later pairs win. -/
def putAll (pairs : List (String × α)) (b : Bindings α) : Bindings α :=
  pairs.foldl (fun b p => b.put p.1 p.2) b

@[simp] theorem get?_nil (name : String) : get? ([] : Bindings α) name = none := rfl

theorem get?_put (b : Bindings α) (name other : String) (value : α) :
    (b.put name value).get? other = if other = name then some value else b.get? other := by
  induction b with
  | nil =>
    by_cases h : other = name
    · simp [put, get?, h]
    · simp [put, get?, List.lookup_cons, h, beq_eq_false_iff_ne.2 h]
  | cons p r ih =>
    obtain ⟨n, v⟩ := p
    unfold get? at ih ⊢
    by_cases hn : n = name
    · subst hn
      by_cases h : other = n
      · subst h; simp [put]
      · simp [put, List.lookup_cons, h, beq_eq_false_iff_ne.2 h]
    · by_cases h : other = n
      · subst h
        simp [put, hn]
      · simp only [put, hn, if_false, List.lookup_cons, beq_eq_false_iff_ne.2 h]
        exact ih

theorem get?_erase (b : Bindings α) (name other : String) :
    (b.erase name).get? other = if other = name then none else b.get? other := by
  induction b with
  | nil => simp [erase, get?]
  | cons p r ih =>
    obtain ⟨n, v⟩ := p
    unfold get? erase at ih ⊢
    by_cases hn : n = name
    · subst hn
      by_cases h : other = n
      · subst h; simpa using ih
      · simp [List.lookup_cons, beq_eq_false_iff_ne.2 h, h] at ih ⊢
        exact ih
    · by_cases h : other = n
      · subst h; simp [List.filter, hn]
      · simp only [List.filter_cons, hn, ne_eq, not_false_eq_true, decide_true, if_true,
          List.lookup_cons, beq_eq_false_iff_ne.2 h]
        exact ih

/-- The names are those of the pairs that can be looked up. -/
theorem isSome_get?_iff {b : Bindings α} {name : String} :
    (b.get? name).isSome = true ↔ name ∈ b.names := by
  induction b with
  | nil => simp [names]
  | cons p r ih =>
    obtain ⟨n, v⟩ := p
    unfold get? names at ih ⊢
    by_cases h : name = n
    · simp [h]
    · simp only [List.lookup_cons, beq_eq_false_iff_ne.2 h, List.map_cons, List.mem_cons, h,
        false_or]
      exact ih

/-- A new name goes to the end, and a bound one stays where it is. -/
theorem names_put (b : Bindings α) (name : String) (value : α) :
    (b.put name value).names = if name ∈ b.names then b.names else b.names ++ [name] := by
  induction b with
  | nil => simp [put, names]
  | cons p r ih =>
    obtain ⟨n, v⟩ := p
    unfold names at ih ⊢
    by_cases h : n = name
    · simp [put, h]
    · simp only [put, h, if_false, List.map_cons, ih, List.mem_cons, Ne.symm h, false_or]
      split <;> simp

/-- Putting keeps names distinct. -/
theorem nodup_names_put {b : Bindings α} (h : b.names.Nodup) (name : String) (value : α) :
    (b.put name value).names.Nodup := by
  rw [names_put]
  split
  · exact h
  · next hn =>
    refine List.nodup_append.2 ⟨h, by simp, ?_⟩
    intro a ha c hc
    rw [List.mem_singleton.1 hc]
    rintro rfl
    exact hn ha

end Bindings
end PageScript
