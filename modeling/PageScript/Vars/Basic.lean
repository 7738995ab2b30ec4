import PageScript.Bindings
import PageScript.Error

/-!
# Variables

Variables live in a stack of scopes that is never empty. A name is looked up in the newest scope
first. Assigning to a name that is bound somewhere updates it where it lives; a new name goes into
the newest scope. Leaving a scope discards only the names that were made in it. While the stack is
flat, scopes are neither made nor left.
-/

namespace PageScript

/-- The variables of one scope. -/
abbrev Scope := Bindings String

/-- A stack of scopes: the newest, and those below it from newest to oldest. -/
structure Vars where
  newest : Scope := []
  older : List Scope := []
  flat : Bool := false

namespace Vars

/-- The scopes, newest first. -/
def scopes (v : Vars) : List Scope :=
  v.newest :: v.older

/-- The number of scopes. -/
def depth (v : Vars) : Nat :=
  v.scopes.length

/-- The value of a name in the first scope that binds it. -/
def find? (name : String) (scopes : List Scope) : Option String :=
  scopes.findSome? (·.get? name)

/-- The value of a name. -/
def get? (v : Vars) (name : String) : Option String :=
  find? name v.scopes

/-- Whether a name has a value. -/
def contains (v : Vars) (name : String) : Bool :=
  (v.get? name).isSome

/-- Changes the first scope that binds a name. -/
def changeFirst (name : String) (change : Scope → Scope) : List Scope → List Scope
  | [] => []
  | s :: r => if s.has name then change s :: r else s :: changeFirst name change r

/-- Assigns a value: where the name lives, or in the newest scope if it is new. -/
def put (v : Vars) (name value : String) : Vars :=
  if v.newest.has name || !v.contains name then { v with newest := v.newest.put name value }
  else { v with older := changeFirst name (·.put name value) v.older }

/-- Removes the newest binding of a name. -/
def erase (v : Vars) (name : String) : Vars :=
  if v.newest.has name then { v with newest := v.newest.erase name }
  else { v with older := changeFirst name (·.erase name) v.older }

/-- Enters a new scope. -/
def push (v : Vars) : Vars :=
  if v.flat then v else { v with newest := [], older := v.scopes }

/-- Leaves the newest scope; the base scope is never left. -/
def pop (v : Vars) : Except Error Vars :=
  if v.flat then .ok v
  else
    match v.older with
    | [] => .error .scopeUnderflow
    | s :: r => .ok { v with newest := s, older := r }

/-- Makes the stack flat, or not flat again. -/
def setFlat (v : Vars) (flat : Bool) : Vars :=
  { v with flat }

/-- One scope with every visible binding. -/
def merged (scopes : List Scope) : Scope :=
  scopes.foldr (fun s below => below.putAll s) []

/-- A stack of one scope that binds what is visible. -/
def flattened (v : Vars) : Vars :=
  { newest := merged v.scopes, older := [], flat := v.flat }

/-- Every visible name with its value, sorted by name. -/
def visible (v : Vars) : List (String × String) :=
  (merged v.scopes).sorted

@[simp] theorem scopes_push (v : Vars) (h : v.flat = false) : v.push.scopes = [] :: v.scopes := by
  simp [push, h, scopes]

/-- Entering a scope hides nothing. -/
@[simp] theorem get?_push (v : Vars) (name : String) : v.push.get? name = v.get? name := by
  unfold get?
  cases h : v.flat with
  | true => simp [push, h]
  | false =>
    rw [scopes_push v h]
    unfold find?
    rw [List.findSome?_cons, Bindings.get?_nil]

/-- Leaving a scope right after entering it changes nothing. -/
@[simp] theorem pop_push (v : Vars) : v.push.pop = .ok v := by
  obtain ⟨newest, older, flat⟩ := v
  cases flat <;> rfl

theorem length_changeFirst (name : String) (change : Scope → Scope) (scopes : List Scope) :
    (changeFirst name change scopes).length = scopes.length := by
  induction scopes with
  | nil => rfl
  | cons s r ih => by_cases h : s.has name = true <;> simp [changeFirst, h, ih]

@[simp] theorem depth_put (v : Vars) (name value : String) :
    (v.put name value).depth = v.depth := by
  unfold put
  split <;> simp [depth, scopes, length_changeFirst]

@[simp] theorem depth_erase (v : Vars) (name : String) : (v.erase name).depth = v.depth := by
  unfold erase
  split <;> simp [depth, scopes, length_changeFirst]

@[simp] theorem flat_put (v : Vars) (name value : String) : (v.put name value).flat = v.flat := by
  unfold put
  split <;> rfl

@[simp] theorem flat_erase (v : Vars) (name : String) : (v.erase name).flat = v.flat := by
  unfold erase
  split <;> rfl

/-- Two stacks of scopes have the same shape, whatever they bind. -/
structure SameShape (v v' : Vars) : Prop where
  flat_eq : v'.flat = v.flat
  depth_eq : v'.depth = v.depth

theorem SameShape.refl (v : Vars) : v.SameShape v := ⟨rfl, rfl⟩

theorem SameShape.trans {v v' v'' : Vars} (h : v.SameShape v') (h' : v'.SameShape v'') :
    v.SameShape v'' :=
  ⟨h'.flat_eq.trans h.flat_eq, h'.depth_eq.trans h.depth_eq⟩

/-- A scope that has been entered can be left again, whatever has been bound meanwhile. -/
theorem SameShape.pop {v v' : Vars} (h : v.push.SameShape v') :
    ∃ v'', v'.pop = .ok v'' ∧ v.SameShape v'' := by
  obtain ⟨newest, older, flat⟩ := v
  obtain ⟨newest', older', flat'⟩ := v'
  have hflat := h.flat_eq
  have hdepth := h.depth_eq
  cases flat <;> simp [push] at hflat <;> subst hflat <;>
    simp [push, depth, scopes] at hdepth
  · cases older' with
    | nil => cases hdepth
    | cons scope older' =>
      exact ⟨_, rfl, rfl, by simpa [depth, scopes] using hdepth⟩
  · exact ⟨_, rfl, rfl, by simpa [depth, scopes] using hdepth⟩

end Vars
end PageScript
