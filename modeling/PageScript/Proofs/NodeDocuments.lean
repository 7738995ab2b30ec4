import Mathlib.Data.List.Forall2
import Mathlib.Data.List.TakeWhile
import PageScript.Document.JsonNode
import PageScript.Proofs.Numerals

/-!
# Nodes survive their document form

A node may be written in a document in many ways. As a record it has its parts in any order, among
entries with other names at will. As a list it has them in a fixed order, cut after any of them. What a
node has none of may be left out, a text that is missing may be written as nothing, and the text of an
attribute may be written as the flag or the integer that it spells. `Written` says which documents are
forms of a node. Reading any of them gives back the node, if lists and records are not nested too deeply
in it.

A record is read entry by entry into a draft. What is read into one part of the draft does not touch
the others, so the order of the entries does not matter: for each part it is enough to say which values
stand under its name (`Draws`).
-/

namespace PageScript.JsonValue

/-! ## Forms of nodes -/

/-- A value spells a text if an attribute with this text may be written as it. -/
inductive Spells : String → JsonValue → Prop where
  | text (s : String) : Spells s (.text (some s))
  | flag (b : Bool) : Spells (toString b) (.flag b)
  /-- An integer that fits 64 bits, with a sign or without one. -/
  | integer (i : Int) (hlow : -(Nat.pow 2 63 : Int) ≤ i) (hhigh : i < Nat.pow 2 64) :
      Spells (toString i) (.number (toString i).toList)
  | minusZero : Spells "-0" (.number ['-', '0'])

/-- An entry of a record states an attribute. -/
def States (a : String × String) (entry : Option String × JsonValue) : Prop :=
  entry.1 = some a.1 ∧ Spells a.2 entry.2

/-- The attributes of a node, which are left out or written as a record. -/
inductive AttributesIn : List (String × String) → Option JsonValue → Prop where
  | leftOut : AttributesIn [] none
  | given {attributes : List (String × String)} {entries : List (Option String × JsonValue)}
      (h : List.Forall₂ States attributes entries) : AttributesIn attributes (some (.record entries))

/-- The text of a node, which is left out, written as nothing, or written as it is. -/
inductive TextIn : Option String → Option JsonValue → Prop where
  | leftOut : TextIn none none
  | null : TextIn none (some .null)
  | given (s : String) : TextIn (some s) (some (.text (some s)))

/-- The names of the parts of a node. -/
def partNames : List String := ["tag", "attributes", "text", "children"]

/-- The entry for a part, unless it is left out. -/
def entryFor (name : String) (part : Option JsonValue) : List (Option String × JsonValue) :=
  (part.map fun value => (some name, value)).toList

/-- The entries for the parts of a node. -/
def partEntries (tag : String) (attributes text children : Option JsonValue) :
    List (Option String × JsonValue) :=
  entryFor "tag" (some (.text (some tag))) ++ entryFor "attributes" attributes ++
    entryFor "text" text ++ entryFor "children" children

mutual

/-- A document is a form of a node. -/
inductive Written : Node → JsonValue → Prop where
  | record {node : Node} {a t c : Option JsonValue}
      {others entries : List (Option String × JsonValue)}
      (hattributes : AttributesIn node.attributes a) (htext : TextIn node.text t)
      (hchildren : ChildrenIn node.children c)
      (hothers : ∀ e ∈ others, ∃ name, e.1 = some name ∧ name ∉ partNames)
      (hperm : entries.Perm (partEntries node.tag a t c ++ others)) : Written node (.record entries)
  | list {node : Node} {a t c : Option JsonValue}
      (hattributes : AttributesIn node.attributes a) (htext : TextIn node.text t)
      (hchildren : ChildrenIn node.children c)
      (hcut : (a = none → t = none) ∧ (t = none → c = none)) :
      Written node (.list (.text (some node.tag) :: (a.toList ++ t.toList ++ c.toList)))

/-- The children of a node, which are left out or written as a list. -/
inductive ChildrenIn : List Node → Option JsonValue → Prop where
  | leftOut : ChildrenIn [] none
  | given {nodes : List Node} {docs : List JsonValue} (h : WrittenAll nodes docs) :
      ChildrenIn nodes (some (.list docs))

/-- Documents are forms of nodes, one by one. -/
inductive WrittenAll : List Node → List JsonValue → Prop where
  | nil : WrittenAll [] []
  | cons {node : Node} {doc : JsonValue} {nodes : List Node} {docs : List JsonValue}
      (head : Written node doc) (tail : WrittenAll nodes docs) :
      WrittenAll (node :: nodes) (doc :: docs)

end

/-! ## Nesting -/

mutual

/-- How deeply lists and records are nested where nodes are read. What stands under another name than
those of the parts of a node is passed over. -/
def nesting : JsonValue → Nat
  | .list items => nestingAll items + 1
  | .record entries => nestingParts entries + 1
  | _ => 0

def nestingAll : List JsonValue → Nat
  | [] => 0
  | item :: r => max (nesting item) (nestingAll r)

def nestingParts : List (Option String × JsonValue) → Nat
  | [] => 0
  | (name, value) :: r =>
    max (if ∃ part ∈ partNames, name = some part then nesting value else 0) (nestingParts r)

end

theorem nesting_le_nestingParts {name : String} {value : JsonValue}
    {entries : List (Option String × JsonValue)} (hname : name ∈ partNames)
    (hmem : (some name, value) ∈ entries) : nesting value ≤ nestingParts entries := by
  induction entries with
  | nil => cases hmem
  | cons e r ih =>
    obtain ⟨other, v⟩ := e
    rw [nestingParts]
    rcases List.mem_cons.1 hmem with heq | hmem
    · obtain ⟨rfl, rfl⟩ := Prod.mk.inj heq
      rw [if_pos ⟨name, hname, rfl⟩]
      exact Nat.le_max_left _ _
    · exact (ih hmem).trans (Nat.le_max_right _ _)

theorem nesting_le_nestingAll {item : JsonValue} {items : List JsonValue} (hmem : item ∈ items) :
    nesting item ≤ nestingAll items := by
  induction items with
  | nil => cases hmem
  | cons other r ih =>
    rw [nestingAll]
    rcases List.mem_cons.1 hmem with rfl | hmem
    · exact Nat.le_max_left _ _
    · exact (ih hmem).trans (Nat.le_max_right _ _)

/-! ## Values of attributes -/

theorem toList_toString (n : Nat) : (toString n).toList = Nat.toDigits 10 n := by
  rw [Nat.toString_eq_ofList_toDigits, String.toList_ofList]

theorem takeWhile_isDigit_toDigits (n : Nat) :
    (Nat.toDigits 10 n).takeWhile Char.isDigit = Nat.toDigits 10 n :=
  List.takeWhile_eq_self_iff.2 fun _ hc =>
    Nat.isDigit_of_mem_toDigits (by decide) (by decide) hc

theorem digitsValue_toDigits (n : Nat) :
    Text.digitsValue 10 ((Nat.toDigits 10 n).map fun c => c.toNat - '0'.toNat) = n := by
  rw [Text.digitsValue_chars, Nat.ofDigitChars_ten_toDigits]

theorem numberText?_toDigits {n : Nat} (h : n < digitsEnd) :
    numberText? (Nat.toDigits 10 n) = some (toString n) := by
  have hplain : ((Nat.toDigits 10 n).head? == some '-') = false := by
    rw [beq_eq_false_iff_ne]
    intro hhead
    have hdigit := Nat.isDigit_of_mem_toDigits (by decide) (by decide) (List.mem_of_head? hhead)
    exact absurd hdigit (by decide)
  unfold numberText?
  simp only [hplain, Bool.false_eq_true, if_false, takeWhile_isDigit_toDigits, List.drop_length,
    digitsValue_toDigits]
  rw [if_pos (by simpa using h), String.empty_append]

theorem numberText?_minus {n : Nat} (hne : n ≠ 0) (h : n ≤ Nat.pow 2 63) :
    numberText? ('-' :: Nat.toDigits 10 n) = some ("-" ++ toString n) := by
  have hlt : n < digitsEnd := Nat.lt_of_le_of_lt h (by decide)
  unfold numberText?
  simp only [List.head?_cons, BEq.rfl, if_true, List.drop_one, List.tail_cons,
    takeWhile_isDigit_toDigits, List.drop_length, digitsValue_toDigits]
  rw [if_pos (by simp [hlt, hne]; exact h)]

/-- A value that spells a text is read as this text. -/
theorem Spells.attributeText?_eq {s : String} {value : JsonValue} (h : Spells s value) :
    attributeText? value = some s := by
  cases h with
  | text s => rfl
  | flag b => cases b <;> rfl
  | integer i hlow hhigh =>
    rw [attributeText?]
    cases i with
    | ofNat n =>
      have hlt : n < digitsEnd := Int.ofNat_lt.1 hhigh
      have htext : toString (Int.ofNat n) = toString n := rfl
      rw [htext, toList_toString, numberText?_toDigits hlt]
    | negSucc n =>
      have hle : n + 1 ≤ Nat.pow 2 63 := by
        rw [Int.negSucc_eq, Int.neg_le_neg_iff] at hlow
        exact Int.ofNat_le.1 hlow
      have htext : toString (Int.negSucc n) = "-" ++ toString (n + 1) := rfl
      have hsign : "-".toList = ['-'] := rfl
      rw [htext, String.toList_append, hsign, toList_toString, List.singleton_append,
        numberText?_minus (Nat.succ_ne_zero n) hle]
  | minusZero => decide +kernel

theorem attributeOf?_eq {a : String × String} {entry : Option String × JsonValue}
    (h : States a entry) : attributeOf? entry = some a := by
  rw [attributeOf?, h.1, h.2.attributeText?_eq]
  rfl

theorem mapM_attributeOf? {attributes : List (String × String)}
    {entries : List (Option String × JsonValue)} (h : List.Forall₂ States attributes entries) :
    entries.mapM attributeOf? = some attributes := by
  induction h with
  | nil => rfl
  | cons head _ ih =>
    rw [List.mapM_cons, attributeOf?_eq head, ih]
    rfl

/-- What is read of a record of attributes does not depend on how their texts are spelled. -/
theorem attributesOf?_spelled {s : String} {value : JsonValue} (h : Spells s value) (room : Nat)
    (before after : List (Option String × JsonValue)) (name : Option String) :
    attributesOf? room (.record (before ++ (name, value) :: after)) =
      attributesOf? room (.record (before ++ (name, .text (some s)) :: after)) := by
  have hsame : attributeOf? (name, value) = attributeOf? (name, .text (some s)) := by
    rw [attributeOf?, attributeOf?, h.attributeText?_eq, (Spells.text s).attributeText?_eq]
  rw [attributesOf?, attributesOf?, List.mapM_append, List.mapM_append, List.mapM_cons,
    List.mapM_cons, hsame]

/-! ## Drafts -/

variable {α : Type} {room : Nat}

/-- The values that stand under a name. -/
def valuesOf (name : String) (entries : List (Option String × JsonValue)) : List JsonValue :=
  entries.filterMap fun e => if e.1 = some name then some e.2 else none

/-- What a part of a draft becomes when the values under its name are read: it is read once, or not at
all. -/
inductive Fills (read : JsonValue → Option α) : Option α → List JsonValue → Option α → Prop where
  | kept (x : Option α) : Fills read x [] x
  | filled {value : JsonValue} {x : α} (h : read value = some x) : Fills read none [value] (some x)

/-- The tag of a node, if a value holds one. -/
def tagOf? : JsonValue → Option String
  | .text s => s
  | _ => none

/-- Some entries turn a draft into another. -/
structure Draws (room : Nat) (d : NodeDraft) (entries : List (Option String × JsonValue))
    (d' : NodeDraft) : Prop where
  named : ∀ e ∈ entries, e.1 ≠ none
  tag : Fills tagOf? d.tag (valuesOf "tag" entries) d'.tag
  attributes : Fills (attributesOf? room) d.attributes (valuesOf "attributes" entries) d'.attributes
  text : Fills textOf? d.text (valuesOf "text" entries) d'.text
  children : Fills (childrenOf? room) d.children (valuesOf "children" entries) d'.children

theorem valuesOf_self (name : String) (value : JsonValue) (r : List (Option String × JsonValue)) :
    valuesOf name ((some name, value) :: r) = value :: valuesOf name r :=
  List.filterMap_cons_some (if_pos rfl)

theorem valuesOf_other {name other : String} (h : other ≠ name) {value : JsonValue}
    {r : List (Option String × JsonValue)} :
    valuesOf name ((some other, value) :: r) = valuesOf name r :=
  List.filterMap_cons_none (if_neg fun heq => h (Option.some.inj heq))

/-- A part that is read first is not read again. -/
theorem Fills.cons_inv {read : JsonValue → Option α} {old new : Option α} {values : List JsonValue}
    (h : Fills read old (value :: values) new) :
    old = none ∧ ∃ x, read value = some x ∧ Fills read (some x) values new := by
  cases h with
  | filled h => exact ⟨rfl, _, h, .kept _⟩

/-- **The order of entries does not matter**: what a record is read as follows from the values that
stand under each name. -/
theorem Draws.entriesOf?_eq {d d' : NodeDraft} {entries : List (Option String × JsonValue)}
    (h : Draws room d entries d') : entriesOf? room d entries = some d' := by
  induction entries generalizing d with
  | nil =>
    obtain ⟨tag, attributes, text, children⟩ := d
    obtain ⟨tag', attributes', text', children'⟩ := d'
    obtain ⟨-, htag, hattributes, htext, hchildren⟩ := h
    cases htag
    cases hattributes
    cases htext
    cases hchildren
    rw [entriesOf?]
  | cons e r ih =>
    obtain ⟨name, value⟩ := e
    obtain ⟨hnamed, htag, hattributes, htext, hchildren⟩ := h
    rw [List.forall_mem_cons] at hnamed
    rcases name with _ | name
    · exact absurd rfl hnamed.1
    by_cases hname : name ∈ partNames
    · -- the value is read into the part of this name, and the others see nothing of it
      simp only [partNames, List.mem_cons, List.not_mem_nil, or_false] at hname
      rcases hname with rfl | rfl | rfl | rfl
      · rw [valuesOf_self] at htag
        rw [valuesOf_other (by decide)] at hattributes htext hchildren
        obtain ⟨hold, x, hx, hrest⟩ := htag.cons_inv
        cases value with
        | text s =>
          cases hx
          rw [entriesOf?]
          · exact ih ⟨hnamed.2, hrest, hattributes, htext, hchildren⟩
          · exact hold
        | _ => cases hx
      · rw [valuesOf_self] at hattributes
        rw [valuesOf_other (by decide)] at htag htext hchildren
        obtain ⟨hold, x, hx, hattributes⟩ := hattributes.cons_inv
        rw [entriesOf?, hold, hx]
        exact ih ⟨hnamed.2, htag, hattributes, htext, hchildren⟩
      · rw [valuesOf_self] at htext
        rw [valuesOf_other (by decide)] at htag hattributes hchildren
        obtain ⟨hold, x, hx, htext⟩ := htext.cons_inv
        rw [entriesOf?, hold, hx]
        exact ih ⟨hnamed.2, htag, hattributes, htext, hchildren⟩
      · rw [valuesOf_self] at hchildren
        rw [valuesOf_other (by decide)] at htag hattributes htext
        obtain ⟨hold, x, hx, hchildren⟩ := hchildren.cons_inv
        rw [entriesOf?, hold, hx]
        exact ih ⟨hnamed.2, htag, hattributes, htext, hchildren⟩
    · -- the entry is passed over
      have hother {part : String} (hpart : part ∈ partNames) :
          valuesOf part ((some name, value) :: r) = valuesOf part r := by
        refine valuesOf_other ?_
        rintro rfl
        exact hname hpart
      rw [hother (by decide)] at htag hattributes htext hchildren
      rw [entriesOf?]
      · exact ih ⟨hnamed.2, htag, hattributes, htext, hchildren⟩
      all_goals
        rintro rfl
        exact hname (by decide)

/-! ## Parts -/

section Parts

variable {a t c : Option JsonValue}

/-- Attributes are read where there is room for the record that they are written as. -/
theorem AttributesIn.fills {attributes : List (String × String)} (h : AttributesIn attributes a)
    (room : Nat) (hroom : ∀ value ∈ a, nesting value < room) :
    ∃ x, Fills (attributesOf? room) none a.toList x ∧ x.getD [] = attributes := by
  cases h with
  | leftOut => exact ⟨none, .kept none, rfl⟩
  | given h =>
    have hlt := hroom _ rfl
    rw [nesting] at hlt
    refine ⟨some attributes, .filled ?_, rfl⟩
    rw [attributesOf?, if_neg (by omega), mapM_attributeOf? h]

theorem TextIn.fills {text : Option String} (h : TextIn text t) :
    ∃ x, Fills textOf? none t.toList x ∧ x.getD none = text := by
  cases h with
  | leftOut => exact ⟨none, .kept none, rfl⟩
  | null => exact ⟨some none, .filled rfl, rfl⟩
  | given s => exact ⟨some (some s), .filled rfl, rfl⟩

/-- A node that is written as a list is read wherever the list is cut. -/
theorem node?_partsOf? {tag : String} {x : Option (List (String × String))}
    {y : Option (Option String)} {z : Option (List Node)}
    (ha : Fills (attributesOf? room) none a.toList x) (ht : Fills textOf? none t.toList y)
    (hc : Fills (childrenOf? room) none c.toList z)
    (hcut : (a = none → t = none) ∧ (t = none → c = none)) :
    (partsOf? room (.text (some tag) :: (a.toList ++ t.toList ++ c.toList))).bind
      NodeDraft.node? =
        NodeDraft.node? { tag := some tag, attributes := x, text := y, children := z } := by
  cases a with
  | none =>
    obtain rfl := hcut.1 rfl
    obtain rfl := hcut.2 rfl
    cases ha
    cases ht
    cases hc
    rfl
  | some a =>
    obtain _ | ha := ha
    cases t with
    | none =>
      obtain rfl := hcut.2 rfl
      cases ht
      cases hc
      rw [Option.toList_some, Option.toList_none, List.append_nil, List.append_nil, partsOf?, ha]
      rfl
    | some t =>
      obtain _ | @⟨_, text, ht⟩ := ht
      cases c with
      | none =>
        cases hc
        rw [Option.toList_some, Option.toList_some, Option.toList_none, List.append_nil,
          List.singleton_append, partsOf?, ha, ht]
        -- a text written as nothing leaves the draft without one, which is the same node
        cases text <;> rfl
      | some c =>
        obtain _ | hc := hc
        rw [Option.toList_some, Option.toList_some, Option.toList_some, List.singleton_append,
          List.cons_append, List.singleton_append, partsOf?, ha, ht, hc]
        cases text <;> rfl

theorem mem_of_mem_valuesOf {name : String} {value : JsonValue}
    {entries : List (Option String × JsonValue)} (h : value ∈ valuesOf name entries) :
    (some name, value) ∈ entries := by
  obtain ⟨e, he, hvalue⟩ := List.mem_filterMap.1 h
  split at hvalue
  · rename_i hname
    rw [← hname, ← Option.some.inj hvalue]
    exact he
  · cases hvalue

theorem valuesOf_append (name : String) (l r : List (Option String × JsonValue)) :
    valuesOf name (l ++ r) = valuesOf name l ++ valuesOf name r :=
  List.filterMap_append

theorem valuesOf_entryFor (name : String) (part : Option JsonValue) :
    valuesOf name (entryFor name part) = part.toList := by
  cases part with
  | none => rfl
  | some value => exact valuesOf_self name value []

theorem valuesOf_entryFor_other {name other : String} (h : other ≠ name) (part : Option JsonValue) :
    valuesOf name (entryFor other part) = [] := by
  cases part with
  | none => rfl
  | some value => exact valuesOf_other h

/-- The part that is written under a name, of which there are four. -/
theorem valuesOf_partEntries (tag : String) (a t c : Option JsonValue) :
    valuesOf "tag" (partEntries tag a t c) = [.text (some tag)] ∧
    valuesOf "attributes" (partEntries tag a t c) = a.toList ∧
    valuesOf "text" (partEntries tag a t c) = t.toList ∧
    valuesOf "children" (partEntries tag a t c) = c.toList := by
  simp [partEntries, valuesOf_append, valuesOf_entryFor, valuesOf_entryFor_other]

theorem ne_none_of_partEntries {tag : String} {e : Option String × JsonValue}
    (h : e ∈ partEntries tag a t c) : e.1 ≠ none := by
  have hnamed {name : String} {part : Option JsonValue} (h : e ∈ entryFor name part) :
      e.1 ≠ none := by
    rw [entryFor, Option.mem_toList, Option.map_eq_some_iff] at h
    obtain ⟨_, -, rfl⟩ := h
    exact Option.some_ne_none name
  simp only [partEntries, List.mem_append] at h
  rcases h with ((h | h) | h) | h
  · exact hnamed h
  · exact hnamed h
  · exact hnamed h
  · exact hnamed h

section Record

variable {tag name : String} {others entries : List (Option String × JsonValue)}
  (hothers : ∀ e ∈ others, ∃ name, e.1 = some name ∧ name ∉ partNames)
  (hperm : entries.Perm (partEntries tag a t c ++ others))

include hothers hperm

/-- Neither the order of the entries nor entries with other names matter for what stands under the name
of a part. -/
theorem valuesOf_written (hname : name ∈ partNames) (part : Option JsonValue)
    (hpart : valuesOf name (partEntries tag a t c) = part.toList) :
    valuesOf name entries = part.toList := by
  have hnone : valuesOf name others = [] := by
    rw [valuesOf, List.filterMap_eq_nil_iff]
    intro e he
    obtain ⟨other, hother, hunknown⟩ := hothers e he
    refine if_neg fun heq => hunknown ?_
    rw [← Option.some.inj (heq.symm.trans hother)]
    exact hname
  have hvalues : (valuesOf name entries).Perm (valuesOf name (partEntries tag a t c ++ others)) :=
    hperm.filterMap _
  rw [valuesOf_append, hnone, hpart, List.append_nil] at hvalues
  cases part with
  | none => exact List.perm_nil.1 hvalues
  | some value => exact List.perm_singleton.1 hvalues

/-- What stands under the name of a part is nested no more deeply than the record. -/
theorem nesting_written (hname : name ∈ partNames) {part : Option JsonValue}
    (hpart : valuesOf name (partEntries tag a t c) = part.toList) :
    ∀ value ∈ part, nesting value ≤ nestingParts entries := by
  intro value hvalue
  have hmem : value ∈ valuesOf name entries := by
    rw [valuesOf_written hothers hperm hname part hpart]
    exact Option.mem_toList.2 hvalue
  exact nesting_le_nestingParts hname (mem_of_mem_valuesOf hmem)

/-- A node that is written as a record is read whatever the order of the entries. -/
theorem draws_written {x : Option (List (String × String))} {y : Option (Option String)}
    {z : Option (List Node)} (ha : Fills (attributesOf? room) none a.toList x)
    (ht : Fills textOf? none t.toList y) (hc : Fills (childrenOf? room) none c.toList z) :
    Draws room {} entries { tag := some tag, attributes := x, text := y, children := z } := by
  obtain ⟨htag, hattributes, htext, hchildren⟩ := valuesOf_partEntries tag a t c
  refine ⟨?_, ?_, ?_, ?_, ?_⟩
  · intro e he
    rcases List.mem_append.1 (hperm.mem_iff.1 he) with he | he
    · exact ne_none_of_partEntries he
    · obtain ⟨name, hname, -⟩ := hothers e he
      rw [hname]
      exact Option.some_ne_none name
  · rw [valuesOf_written hothers hperm (by decide) (some (.text (some tag))) htag]
    exact .filled rfl
  · rw [valuesOf_written hothers hperm (by decide) a hattributes]
    exact ha
  · rw [valuesOf_written hothers hperm (by decide) t htext]
    exact ht
  · rw [valuesOf_written hothers hperm (by decide) c hchildren]
    exact hc

end Record
end Parts

/-! ## Reading back -/

/-- A draft with the parts of a node, of which those that the node has none of may be missing. -/
theorem node?_eq {node : Node} {x : Option (List (String × String))} {y : Option (Option String)}
    {z : Option (List Node)} (hx : x.getD [] = node.attributes) (hy : y.getD none = node.text)
    (hz : z.getD [] = node.children) :
    NodeDraft.node? { tag := some node.tag, attributes := x, text := y, children := z } =
      some node := by
  rw [NodeDraft.node?, hx, hy, hz]
  cases node
  rfl

mutual

/-- **A form of a node is read as the node.** -/
theorem Written.nodeOf?_eq {node : Node} {doc : JsonValue} {room : Nat} : Written node doc →
    nesting doc < room → nodeOf? room doc = some node
  | .record hattributes htext hchildren hothers hperm, hlt => by
    rw [nesting] at hlt
    obtain ⟨-, ha, -, hc⟩ := valuesOf_partEntries node.tag _ _ _
    obtain ⟨x, hx, hxs⟩ := hattributes.fills (room - 1) fun value hvalue => by
      have hle := nesting_written hothers hperm (by decide) ha value hvalue
      omega
    obtain ⟨y, hy, hys⟩ := htext.fills
    obtain ⟨z, hz, hzs⟩ := hchildren.fills (room - 1) fun value hvalue => by
      have hle := nesting_written hothers hperm (by decide) hc value hvalue
      omega
    rw [nodeOf?, if_neg (by omega), (draws_written hothers hperm hx hy hz).entriesOf?_eq,
      Option.bind_some]
    exact node?_eq hxs hys hzs
  | @Written.list _ a t c hattributes htext hchildren hcut, hlt => by
    rw [nesting] at hlt
    have hle {value : JsonValue} (hmem : value ∈ a.toList ++ t.toList ++ c.toList) :
        nesting value < room - 1 := by
      have hall := nesting_le_nestingAll (List.mem_cons_of_mem (.text (some node.tag)) hmem)
      omega
    obtain ⟨x, hx, hxs⟩ := hattributes.fills (room - 1) fun value hvalue =>
      hle (List.mem_append_left _ (List.mem_append_left _ (Option.mem_toList.2 hvalue)))
    obtain ⟨y, hy, hys⟩ := htext.fills
    obtain ⟨z, hz, hzs⟩ := hchildren.fills (room - 1) fun value hvalue =>
      hle (List.mem_append_right _ (Option.mem_toList.2 hvalue))
    rw [nodeOf?, if_neg (by omega), node?_partsOf? hx hy hz hcut]
    exact node?_eq hxs hys hzs

theorem ChildrenIn.fills {nodes : List Node} {c : Option JsonValue} : ChildrenIn nodes c →
    ∀ room, (∀ value ∈ c, nesting value < room) →
      ∃ z, Fills (childrenOf? room) none c.toList z ∧ z.getD [] = nodes
  | .leftOut, _, _ => ⟨none, .kept none, rfl⟩
  | .given h, room, hroom => by
    have hlt := hroom _ rfl
    rw [nesting] at hlt
    refine ⟨some nodes, .filled ?_, rfl⟩
    rw [childrenOf?, if_neg (by omega), h.nodesOf?_eq (by omega)]

theorem WrittenAll.nodesOf?_eq {nodes : List Node} {docs : List JsonValue} {room : Nat} :
    WrittenAll nodes docs → nestingAll docs < room → nodesOf? room docs = some nodes
  | .nil, _ => rfl
  | .cons head tail, hlt => by
    rw [nestingAll] at hlt
    rw [nodesOf?, head.nodeOf?_eq (by omega), tail.nodesOf?_eq (by omega)]
    rfl

end

/-- **Nodes survive their document form.** A list of documents, each of which is a form of a node, is
read as the nodes, in order, if what is read is not nested too deeply; and so is a text, for any reader
of texts that delivers it as this list. What is read of a record of attributes is the same whether a
text is written as it is or as a flag or an integer. -/
theorem survives_document {nodes : List Node} {docs : List JsonValue} (h : WrittenAll nodes docs)
    (hnesting : nesting (.list docs) < nestingEnd) :
    childrenOf? nestingEnd (.list docs) = some nodes ∧
    (∀ (read : String → Option JsonValue) s, read s = some (.list docs) →
      nodesBy? read s = some nodes) ∧
    ∀ s value, Spells s value → ∀ room before after name,
      attributesOf? room (.record (before ++ (name, value) :: after)) =
        attributesOf? room (.record (before ++ (name, .text (some s)) :: after)) := by
  have hread : childrenOf? nestingEnd (.list docs) = some nodes := by
    rw [nesting] at hnesting
    rw [childrenOf?, if_neg (by decide), h.nodesOf?_eq (by omega)]
  refine ⟨hread, fun read s htext => ?_, fun s value hspells room before after name =>
    attributesOf?_spelled hspells room before after name⟩
  rw [nodesBy?, htext]
  exact hread

/-- A node as a record, with its parts in another order and a name of its own, and in it one as a list
that is cut after its text. -/
def mixedDocs : List JsonValue :=
  [.record [
    (some "children", .list [.list [.text (some "b"),
      .record [(some "n", .number ['7']), (some "ok", .flag true)], .text (some "hi")]]),
    (some "note", .list [.number ['1']]),
    (some "tag", .text (some "a")),
    (some "attributes", .record [(some "x", .text (some "1")), (some "x", .text (some "2"))])]]

def mixedNodes : List Node :=
  [⟨"a", [("x", "1"), ("x", "2")], none, [⟨"b", [("n", "7"), ("ok", "true")], some "hi", []⟩]⟩]

def mixedText : String :=
  "[\x7b\"children\": [[\"b\", \x7b\"n\": 7, \"ok\": true\x7d, \"hi\"]], " ++
    "\"note\": [1], \"tag\": \"a\", \"attributes\": \x7b\"x\": \"1\", \"x\": \"2\"\x7d\x7d]"

set_option maxRecDepth 2000 in
theorem survives_mixedDocs :
    WrittenAll mixedNodes mixedDocs ∧ nesting (.list mixedDocs) < nestingEnd ∧
    ofText? mixedText = some (.list mixedDocs) ∧
    childrenOf? nestingEnd (.list mixedDocs) = some mixedNodes ∧
    nodesOfText? mixedText = some mixedNodes := by
  have hinner : Written ⟨"b", [("n", "7"), ("ok", "true")], some "hi", []⟩
      (.list [.text (some "b"), .record [(some "n", .number ['7']), (some "ok", .flag true)],
        .text (some "hi")]) := by
    refine @Written.list ⟨"b", [("n", "7"), ("ok", "true")], some "hi", []⟩ (some _) (some _) none
      (.given ?_) (.given "hi") .leftOut ⟨nofun, fun _ => rfl⟩
    exact .cons ⟨rfl, .integer 7 (by decide) (by decide)⟩ (.cons ⟨rfl, .flag true⟩ .nil)
  have hattributes : AttributesIn [("x", "1"), ("x", "2")]
      (some (.record [(some "x", .text (some "1")), (some "x", .text (some "2"))])) :=
    .given (.cons ⟨rfl, .text "1"⟩ (.cons ⟨rfl, .text "2"⟩ .nil))
  have houter : WrittenAll mixedNodes mixedDocs := by
    refine .cons ?_ .nil
    refine @Written.record _ _ none _ [(some "note", .list [.number ['1']])] _
      hattributes .leftOut (.given (.cons hinner .nil)) ?_ ?_
    · exact List.forall_mem_singleton.2 ⟨"note", rfl, by decide⟩
    · exact @List.perm_append_comm _ [_, _] [_, _]
  have hnesting : nesting (.list mixedDocs) < nestingEnd := by decide
  have htext : ofText? mixedText = some (.list mixedDocs) := by rfl
  have hread := survives_document houter hnesting
  exact ⟨houter, hnesting, htext, hread.1, hread.2.1 ofText? mixedText htext⟩

end PageScript.JsonValue
