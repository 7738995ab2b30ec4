/-!
# Searching and cutting text

Occurrence, replacement, and splitting of character lists, with the string forms the rest of the
library uses. Replacement goes from left to right and never looks at what it has put in.
-/

namespace PageScript.Text

/-- Whether `needle` occurs somewhere in a text; the empty needle occurs everywhere. -/
def occurs (needle : List Char) : List Char → Bool
  | [] => needle.isEmpty
  | c :: r => needle.isPrefixOf (c :: r) || occurs needle r

/-- Replaces every occurrence of a non-empty `old` by `new`, left to right without overlaps;
`skip` characters of an occurrence already replaced are still to be passed over. -/
def replaceFrom (old new : List Char) : Nat → List Char → List Char
  | _, [] => []
  | skip + 1, _ :: r => replaceFrom old new skip r
  | 0, c :: r =>
    if old.isPrefixOf (c :: r) then new ++ replaceFrom old new (old.length - 1) r
    else c :: replaceFrom old new 0 r

/-- Replaces every occurrence of a non-empty `old` by `new`. -/
def replace (old new s : List Char) : List Char :=
  replaceFrom old new 0 s

/-- Cuts a text at every `sep`; there is always at least one piece. -/
def cutAt (sep : Char) : List Char → List (List Char)
  | [] => [[]]
  | c :: r =>
    if c = sep then [] :: cutAt sep r
    else
      match cutAt sep r with
      | [] => [[c]]
      | piece :: pieces => (c :: piece) :: pieces

/-- What stands before and after the first `sep`, if there is one. -/
def cutOnce (sep : Char) : List Char → Option (List Char × List Char)
  | [] => none
  | c :: r =>
    if c = sep then some ([], r)
    else (cutOnce sep r).map fun (before, after) => (c :: before, after)

/-- Drops one carriage return from the end of a line. -/
def dropReturn (line : List Char) : List Char :=
  match line.getLast? with
  | some '\r' => line.dropLast
  | _ => line

/-- The lines of an output: ended by line feeds, an empty last piece is no line, and a carriage
return before the line feed belongs to the line end. -/
def lines (s : List Char) : List (List Char) :=
  let pieces := cutAt '\n' s
  match pieces.getLast? with
  | some [] => pieces.dropLast.map dropReturn
  | some last => pieces.dropLast.map dropReturn ++ [last]
  | none => []

/-- Whether `needle` occurs in `hay`. -/
def contains (hay needle : String) : Bool :=
  occurs needle.toList hay.toList

/-- `hay` without any occurrence of a non-empty `old`. -/
def erase (hay old : String) : String :=
  String.ofList (replace old.toList [] hay.toList)

def linesOf (s : String) : List String :=
  (lines s.toList).map String.ofList

/-- Whether two strings are equal up to the case of ASCII letters. -/
def sameIgnoringCase (s t : String) : Bool :=
  s.toLower == t.toLower

theorem cutAt_ne_nil (sep : Char) (s : List Char) : cutAt sep s ≠ [] := by
  cases s with
  | nil => simp [cutAt]
  | cons c r =>
    unfold cutAt
    split
    · simp
    · split <;> simp

/-- Nothing is lost in cutting. -/
theorem intercalate_cutAt (sep : Char) (s : List Char) :
    [sep].intercalate (cutAt sep s) = s := by
  induction s with
  | nil => rfl
  | cons c r ih =>
    unfold cutAt
    cases h : cutAt sep r with
    | nil => exact absurd h (cutAt_ne_nil sep r)
    | cons piece pieces =>
      rw [h] at ih
      split
      · next hc => simp [List.intercalate_cons_cons, ih, hc]
      · cases pieces with
        | nil => simpa using ih
        | cons other rest =>
          simp only [List.intercalate_cons_cons, List.cons_append] at ih ⊢
          rw [ih]

theorem cutOnce_eq_some {sep : Char} {s before after : List Char}
    (h : cutOnce sep s = some (before, after)) : s = before ++ sep :: after := by
  induction s generalizing before with
  | nil => simp [cutOnce] at h
  | cons c r ih =>
    unfold cutOnce at h
    split at h
    · next hc =>
      simp only [Option.some.injEq, Prod.mk.injEq] at h
      obtain ⟨rfl, rfl⟩ := h
      simp [hc]
    · obtain ⟨⟨b, a⟩, hb, heq⟩ := Option.map_eq_some_iff.1 h
      simp only [Prod.mk.injEq] at heq
      obtain ⟨rfl, rfl⟩ := heq
      simp [ih hb]

/-- What stands after a separator is shorter than the whole. -/
theorem length_cutOnce {sep : Char} {s before after : List Char}
    (h : cutOnce sep s = some (before, after)) : after.length < s.length := by
  rw [cutOnce_eq_some h]
  simp
  omega

end PageScript.Text
