import Mathlib
import PageScript.Proofs.BuiltEvents

/-!
# Looking names up

What can be looked up in a list of pairs is all there is to it, as long as no name stands twice: the
pairs can stand in any order, and once they are sorted they stand in the same one.
-/

namespace PageScript
namespace Bindings

variable {α β : Type} {b b' : Bindings α} {name : String} {value : α}

theorem get?_eq_none_iff : b.get? name = none ↔ name ∉ b.names := by
  rw [← isSome_get?_iff, Bool.not_eq_true, Option.isSome_eq_false_iff, Option.isNone_iff_eq_none]

theorem get?_settled (pairs : List (String × α)) (name : String) :
    get? (settled pairs) name = pairs.reverse.lookup name := by
  rw [← putAll_nil, get?_putAll, get?_nil, Option.or_none]

/-- Where no name stands twice, a pair is in the list if it can be looked up. -/
theorem get?_eq_some_iff (h : b.names.Nodup) : b.get? name = some value ↔ (name, value) ∈ b := by
  refine ⟨mem_of_lookup, fun hmem => ?_⟩
  induction b with
  | nil => cases hmem
  | cons p r ih =>
    obtain ⟨hp, hr⟩ := List.nodup_cons.1 (h : (p.1 :: names r).Nodup)
    rw [get?_cons]
    rcases List.mem_cons.1 hmem with rfl | hmem
    · exact if_pos rfl
    · have hne : name ≠ p.1 := by
        rintro rfl
        exact hp (List.mem_map.2 ⟨_, hmem, rfl⟩)
      rw [if_neg hne]
      exact ih hr hmem

theorem get?_map (f : α → β) (b : Bindings α) (name : String) :
    get? (b.map fun p => (p.1, f p.2)) name = (b.get? name).map f := by
  induction b with
  | nil => rfl
  | cons p r ih =>
    rw [List.map_cons, get?_cons, get?_cons, ih]
    split <;> rfl

theorem names_map (f : α → β) (b : Bindings α) :
    names (b.map fun p => (p.1, f p.2)) = b.names :=
  List.map_map

theorem get?_filter (h : b.names.Nodup) (keep : String × α → Bool) (name : String) :
    get? (b.filter keep) name = (b.get? name).filter fun value => keep (name, value) := by
  induction b with
  | nil => rfl
  | cons p r ih =>
    obtain ⟨hp, hr⟩ := List.nodup_cons.1 (h : (p.1 :: names r).Nodup)
    by_cases hname : name = p.1
    · subst hname
      have hrest : get? r p.1 = none := get?_eq_none_iff.2 hp
      rw [get?_cons, if_pos rfl, List.filter_cons, Option.filter_some]
      by_cases hkeep : keep p = true
      · rw [if_pos hkeep, if_pos hkeep, get?_cons, if_pos rfl]
      · rw [if_neg hkeep, if_neg hkeep, ih hr, hrest, Option.filter_none]
    · rw [get?_cons, if_neg hname, ← ih hr, List.filter_cons]
      by_cases hkeep : keep p = true
      · rw [if_pos hkeep, get?_cons, if_neg hname]
      · rw [if_neg hkeep]

theorem nodup_names_filter (h : b.names.Nodup) (keep : String × α → Bool) :
    (names (b.filter keep)).Nodup :=
  h.sublist (List.filter_sublist.map Prod.fst)

theorem nodup_names_erase (h : b.names.Nodup) (name : String) : (b.erase name).names.Nodup :=
  nodup_names_filter h _

/-! ## The order of pairs -/

theorem perm_of_get?_eq (h : b.names.Nodup) (h' : b'.names.Nodup)
    (heq : ∀ name, b.get? name = b'.get? name) : b.Perm b' := by
  refine (List.perm_ext_iff_of_nodup (.of_map _ h) (.of_map _ h')).2 fun p => ?_
  rw [← get?_eq_some_iff h, ← get?_eq_some_iff h', heq]

theorem get?_eq_of_perm (h : b.names.Nodup) (hperm : b.Perm b') (name : String) :
    b.get? name = b'.get? name := by
  have h' : b'.names.Nodup := (hperm.map Prod.fst).nodup h
  ext value
  rw [get?_eq_some_iff h, get?_eq_some_iff h', hperm.mem_iff]

/-- The order by name decides where every pair stands. -/
theorem sorted_eq_of_perm (h : b.names.Nodup) (hperm : b.Perm b') : b.sorted = b'.sorted := by
  have hpairwise (b : Bindings α) : b.sorted.Pairwise fun p q => decide (p.1 ≤ q.1) = true := by
    refine List.pairwise_mergeSort (fun p q r hpq hqr => ?_) (fun p q => ?_) b
    · exact decide_eq_true (String.le_trans (of_decide_eq_true hpq) (of_decide_eq_true hqr))
    · simp [String.le_total p.1 q.1]
  have hsorted : b.sorted.Perm b'.sorted :=
    (List.mergeSort_perm b _).trans (hperm.trans (List.mergeSort_perm b' _).symm)
  refine List.Perm.eq_of_pairwise (fun p q hp hq hpq hqp => ?_) (hpairwise b) (hpairwise b') hsorted
  have hname : p.1 = q.1 :=
    String.le_antisymm (of_decide_eq_true hpq) (of_decide_eq_true hqp)
  have hp : (p.1, p.2) ∈ b := (List.mergeSort_perm b _).mem_iff.1 hp
  have hq : (p.1, q.2) ∈ b := by
    rw [hname]
    exact hperm.mem_iff.2 ((List.mergeSort_perm b' _).mem_iff.1 hq)
  have hvalue := ((get?_eq_some_iff h).2 hp).symm.trans ((get?_eq_some_iff h).2 hq)
  exact Prod.ext hname (Option.some.inj hvalue)

/-- Sorted, the pairs show nothing but what can be looked up. -/
theorem sorted_eq (h : b.names.Nodup) (h' : b'.names.Nodup)
    (heq : ∀ name, b.get? name = b'.get? name) : b.sorted = b'.sorted :=
  sorted_eq_of_perm h (perm_of_get?_eq h h' heq)

theorem names_sorted (b : Bindings α) :
    b.sorted.names = b.names.mergeSort fun n n' => decide (n ≤ n') :=
  List.map_mergeSort fun _ _ _ _ => rfl

end Bindings
end PageScript
