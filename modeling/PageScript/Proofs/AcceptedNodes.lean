import Mathlib
import PageScript.Event.Build

/-!
# Which nodes are accepted

A node is lawful if its tag names a kind, and each of its attributes is one that this kind has; case
never matters. The nodes of a forest are judged in the order in which a reader comes to them, a node
before its children and those from the first to the last. What an execution or an added program
takes as its arguments is not judged, and neither is what stands below an argument.

A forest is built when all that is judged is lawful. Otherwise the first node that is not lawful
says why, by its tag, or by the first of its attributes that its kind does not have. So the answer
is found by one walk over the judged nodes, whatever the depth they stand at.
-/

namespace PageScript

/-! ## Kinds and their tags -/

theorem Kind.mem_all (kind : Kind) : kind ∈ Kind.all := by
  cases kind with
  | command c => cases c <;> decide
  | markup m => cases m <;> decide
  | frame => decide
  | control c => cases c <;> decide

theorem Kind.nodup_tags : (Kind.all.map Kind.tag).Nodup := by decide +kernel

theorem Kind.tag_inj {k k' : Kind} (h : k.tag = k'.tag) : k = k' :=
  List.inj_on_of_nodup_map Kind.nodup_tags k.mem_all k'.mem_all h

theorem Kind.toLower_tag (kind : Kind) : kind.tag.toLower = kind.tag :=
  (by decide +kernel : ∀ kind ∈ Kind.all, kind.tag.toLower = kind.tag) kind kind.mem_all

/-- A tag names the one kind whose tag it is in lower case. -/
theorem Kind.ofTag?_eq_some {tag : String} {kind : Kind} :
    Kind.ofTag? tag = some kind ↔ kind.tag = tag.toLower := by
  unfold Kind.ofTag?
  constructor
  · intro h
    have hfound := List.find?_some h
    simpa using hfound
  · intro h
    cases hfind : Kind.all.find? (·.tag == tag.toLower) with
    | none =>
      have hnone := List.find?_eq_none.1 hfind kind kind.mem_all
      exact absurd (beq_iff_eq.2 h) hnone
    | some k' =>
      have hfound : k'.tag = tag.toLower := by simpa using List.find?_some hfind
      rw [Kind.tag_inj (hfound.trans h.symm)]

theorem sameIgnoringCase_tag {tag : String} {kind : Kind} :
    Text.sameIgnoringCase tag kind.tag = true ↔ kind.tag = tag.toLower := by
  rw [Text.sameIgnoringCase, Kind.toLower_tag, beq_iff_eq, eq_comm]

/-! ## Lawful nodes -/

/-- Whether a kind has an attribute, as a selector or as an action. -/
def Kind.HasAttribute (kind : Kind) (name : String) : Prop :=
  name ∈ (kind.schema.selectors ++ kind.schema.actions).map Prod.fst

/-- A node whose tag names a kind, with no attribute that this kind does not have. -/
def Node.Lawful (n : Node) : Prop :=
  ∃ kind : Kind, Text.sameIgnoringCase n.tag kind.tag = true ∧
    ∀ a ∈ n.attributes, kind.HasAttribute a.1.toLower

/-- What is wrong with a node: its tag, as written, or else the first of its attributes that its kind
does not have, in lower case. -/
inductive Node.Violates (n : Node) : Error → Prop where
  | tag (h : ∀ kind : Kind, Text.sameIgnoringCase n.tag kind.tag = false) :
    Violates n (.unknownKind n.tag)
  | attribute {kind : Kind} {earlier later : List (String × String)} {a : String × String}
    (htag : Text.sameIgnoringCase n.tag kind.tag = true)
    (hattributes : n.attributes = earlier ++ a :: later)
    (hearlier : ∀ b ∈ earlier, kind.HasAttribute b.1.toLower)
    (hmissing : ¬ kind.HasAttribute a.1.toLower) :
    Violates n (.invalidAttribute a.1.toLower n.tag)

/-- Whether `arg` children of a node are its arguments. -/
def Node.takesArgs (n : Node) : Bool :=
  ["execute", "javaplugin"].any (Text.sameIgnoringCase n.tag)

mutual

/-- The nodes of a tree that are judged, in document order. -/
def Node.judged : Node → List Node
  | ⟨tag, attributes, text, children⟩ =>
    ⟨tag, attributes, text, children⟩ ::
      Node.judgedAll (Node.takesArgs ⟨tag, attributes, text, children⟩) children

/-- The nodes of a forest that are judged; arguments and all below them are passed over if
`skipArgs`. -/
def Node.judgedAll (skipArgs : Bool) : List Node → List Node
  | [] => []
  | n :: ns =>
    if skipArgs && n.isArg then Node.judgedAll skipArgs ns
    else n.judged ++ Node.judgedAll skipArgs ns

end

/-- A tag is one of those of some kinds just when it names one of them. -/
theorem Kind.any_tag_eq {tag : String} {kind : Kind} (h : Kind.ofTag? tag = some kind)
    (kinds : List Kind) :
    (kinds.map Kind.tag).any (Text.sameIgnoringCase tag) = kinds.contains kind := by
  rw [Bool.eq_iff_iff, List.any_eq_true, List.contains_iff_mem]
  constructor
  · rintro ⟨t, ht, hsame⟩
    obtain ⟨k', hk', rfl⟩ := List.mem_map.1 ht
    rw [Kind.tag_inj ((Kind.ofTag?_eq_some.1 h).trans (sameIgnoringCase_tag.1 hsame).symm)]
    exact hk'
  · intro hmem
    exact ⟨kind.tag, List.mem_map_of_mem hmem, sameIgnoringCase_tag.2 (Kind.ofTag?_eq_some.1 h)⟩

/-- The kind that a tag names takes arguments just when a node with this tag does. -/
theorem Node.takesArgs_eq {n : Node} {kind : Kind} (h : Kind.ofTag? n.tag = some kind) :
    (kind.content == .args) = n.takesArgs := by
  have hkinds : ∀ kind ∈ Kind.all, (kind.content == .args) =
      [Kind.command .execute, .command .javaplugin].contains kind := by decide +kernel
  rw [hkinds kind kind.mem_all]
  exact (Kind.any_tag_eq h _).symm

/-! ## What is found wrong with one node -/

/-- The first of some attributes that a kind does not have. -/
def Kind.refusal? (kind : Kind) (tag : String) (attributes : List (String × String)) :
    Option Error :=
  attributes.findSome? fun a =>
    if (kind.schema.selectorType? a.1.toLower).or (kind.schema.actionType? a.1.toLower) = none then
      some (.invalidAttribute a.1.toLower tag)
    else none

/-- What is found wrong with a node, leaving aside all below it. -/
def Node.violation? (n : Node) : Option Error :=
  match Kind.ofTag? n.tag with
  | none => some (.unknownKind n.tag)
  | some kind => kind.refusal? n.tag n.attributes

theorem lookup_eq_none_iff {table : AttributeTable} {name : String} :
    table.lookup name = none ↔ name ∉ table.map Prod.fst := by
  rw [← Bindings.get?, ← Option.not_isSome_iff_eq_none, Bindings.isSome_get?_iff, Bindings.names]

theorem Kind.hasAttribute_iff {kind : Kind} {name : String} :
    kind.HasAttribute name ↔
      (kind.schema.selectorType? name).or (kind.schema.actionType? name) ≠ none := by
  rw [Kind.HasAttribute, List.map_append, List.mem_append, Ne, Option.or_eq_none_iff,
    Schema.selectorType?, Schema.actionType?, lookup_eq_none_iff, lookup_eq_none_iff,
    Classical.not_and_iff_not_or_not, not_not, not_not]

theorem Node.violation?_eq_none {n : Node} : n.violation? = none ↔ n.Lawful := by
  unfold Node.violation? Node.Lawful
  cases hkind : Kind.ofTag? n.tag with
  | none =>
    refine iff_of_false (Option.some_ne_none _) ?_
    rintro ⟨kind, htag, -⟩
    rw [sameIgnoringCase_tag, ← Kind.ofTag?_eq_some, hkind] at htag
    cases htag
  | some kind =>
    have htag := sameIgnoringCase_tag.2 (Kind.ofTag?_eq_some.1 hkind)
    dsimp only
    rw [Kind.refusal?, List.findSome?_eq_none_iff]
    constructor
    · intro h
      refine ⟨kind, htag, fun a ha => ?_⟩
      have hnone := h a ha
      rw [Kind.hasAttribute_iff]
      intro hmissing
      rw [if_pos hmissing] at hnone
      cases hnone
    · rintro ⟨k', htag', h⟩ a ha
      obtain rfl : k' = kind :=
        Kind.tag_inj ((sameIgnoringCase_tag.1 htag').trans (sameIgnoringCase_tag.1 htag).symm)
      rw [if_neg (Kind.hasAttribute_iff.1 (h a ha))]

theorem Node.violation?_eq_some {n : Node} {e : Error} : n.violation? = some e ↔ n.Violates e := by
  unfold Node.violation?
  cases hkind : Kind.ofTag? n.tag with
  | none =>
    -- the tag is that of no kind, so there is no attribute to be judged
    have hnone (kind : Kind) : Text.sameIgnoringCase n.tag kind.tag = false := by
      rw [Bool.eq_false_iff, Ne, sameIgnoringCase_tag, ← Kind.ofTag?_eq_some, hkind]
      exact nofun
    constructor
    · rintro ⟨⟩
      exact .tag hnone
    · rintro (- | ⟨htag, -, -, -⟩)
      · rfl
      · rw [hnone] at htag
        cases htag
  | some kind =>
    -- the first attribute that the kind does not know is the one that is refused
    have htag := sameIgnoringCase_tag.2 (Kind.ofTag?_eq_some.1 hkind)
    dsimp only
    rw [Kind.refusal?, List.findSome?_eq_some_iff]
    constructor
    · rintro ⟨earlier, a, later, hattributes, hrefused, hearlier⟩
      split at hrefused
      · next hmissing =>
        cases hrefused
        refine .attribute htag hattributes (fun b hb => ?_) ?_
        · rw [Kind.hasAttribute_iff]
          intro hmissing
          have hknown := hearlier b hb
          rw [if_pos hmissing] at hknown
          cases hknown
        · rw [Kind.hasAttribute_iff, not_not]
          exact hmissing
      · cases hrefused
    · rintro (hnone | @⟨k', earlier, later, a, htag', hattributes, hearlier, hmissing⟩)
      · rw [hnone kind] at htag
        cases htag
      · obtain rfl : k' = kind :=
          Kind.tag_inj ((sameIgnoringCase_tag.1 htag').trans (sameIgnoringCase_tag.1 htag).symm)
        refine ⟨earlier, a, later, hattributes, ?_, fun b hb => ?_⟩
        · rw [Kind.hasAttribute_iff, not_not] at hmissing
          rw [if_pos hmissing]
        · rw [if_neg (Kind.hasAttribute_iff.1 (hearlier b hb))]

/-! ## Building as a walk over what is judged -/

/-- The violation that building ends with, if it does. -/
def Built.error? {α : Type} (x : Built α) : Option Error :=
  match x.result with
  | .error e => some e
  | .ok _ => none

@[simp] theorem Built.error?_pure {α : Type} (a : α) : (pure a : Built α).error? = none := rfl

/-- What is built after a step ends as the step does, or as the rest does whatever that is given. -/
theorem Built.error?_bind {α β : Type} {x : Built α} {f : α → Built β} {e? : Option Error}
    (h : ∀ a, (f a).error? = e?) : (x >>= f).error? = x.error?.or e? := by
  unfold Built.error? at h ⊢
  rw [Built.result_bind]
  cases x.result with
  | error e => rfl
  | ok a => exact h a

theorem error?_typedValue (kind : Kind) (name raw : String) (ty : ValueType) :
    (typedValue kind name raw ty).error? = none := by
  cases ty <;> rfl

theorem error?_gather (kind : Kind) (tag : String) (attributes : List (String × String)) :
    ∀ g : Gathered, (gather kind tag g attributes).error? = kind.refusal? tag attributes := by
  induction attributes with
  | nil => intro g; rfl
  | cons a r ih =>
    intro g
    obtain ⟨rawName, raw⟩ := a
    rw [gather, Kind.refusal?, List.findSome?_cons]
    cases hs : kind.schema.selectorType? rawName.toLower with
    | some ty =>
      dsimp only
      rw [Built.error?_bind fun value => ih _, error?_typedValue]
      rfl
    | none =>
      cases ha : kind.schema.actionType? rawName.toLower with
      | some ty =>
        dsimp only
        rw [Built.error?_bind fun value => ih _, error?_typedValue]
        rfl
      | none => rfl

mutual

theorem Node.error?_build : ∀ n : Node, n.build.error? = n.judged.findSome? Node.violation?
  | ⟨tag, attributes, text, children⟩ => by
    rw [Node.build, Node.judged, List.findSome?_cons, Node.violation?]
    cases hkind : Kind.ofTag? tag with
    | none => rfl
    | some kind =>
      dsimp only
      have hargs := Node.takesArgs_eq (n := ⟨tag, attributes, text, children⟩) hkind
      rw [Built.error?_bind fun g => Built.error?_bind fun events => Built.error?_pure _,
        error?_gather, Node.error?_buildAll, hargs, Option.or_none]
      cases kind.refusal? tag attributes <;> rfl

theorem Node.error?_buildAll (skipArgs : Bool) : ∀ ns : List Node,
    (Node.buildAll skipArgs ns).error? = (Node.judgedAll skipArgs ns).findSome? Node.violation?
  | [] => by
    rw [Node.buildAll, Node.judgedAll]
    rfl
  | n :: ns => by
    rw [Node.buildAll, Node.judgedAll]
    split
    · exact Node.error?_buildAll skipArgs ns
    · rw [Built.error?_bind fun e => Built.error?_bind fun es => Built.error?_pure _,
        Node.error?_build n, Node.error?_buildAll skipArgs ns, Option.or_none,
        List.findSome?_append]

end

/-- **What is accepted.** A script is built if and only if all of its nodes that are judged are
lawful. Otherwise building ends with what is wrong with the first of them that is not. -/
theorem accepted_iff_lawful (nodes : List Node) :
    ((∃ events, (Event.ofNodes nodes).result = .ok events) ↔
      ∀ n ∈ Node.judgedAll false nodes, n.Lawful) ∧
    ∀ e, (Event.ofNodes nodes).result = .error e ↔
      ∃ earlier n later, Node.judgedAll false nodes = earlier ++ n :: later ∧
        (∀ m ∈ earlier, m.Lawful) ∧ n.Violates e := by
  have hwalk : (Event.ofNodes nodes).error? =
      (Node.judgedAll false nodes).findSome? Node.violation? := Node.error?_buildAll false nodes
  constructor
  · have hbuilt : (∃ events, (Event.ofNodes nodes).result = .ok events) ↔
        (Event.ofNodes nodes).error? = none := by
      unfold Built.error?
      cases (Event.ofNodes nodes).result <;> simp
    rw [hbuilt, hwalk, List.findSome?_eq_none_iff]
    exact forall₂_congr fun n _ => Node.violation?_eq_none
  · intro e
    have hended : (Event.ofNodes nodes).result = .error e ↔
        (Event.ofNodes nodes).error? = some e := by
      unfold Built.error?
      cases (Event.ofNodes nodes).result <;> simp
    rw [hended, hwalk, List.findSome?_eq_some_iff]
    constructor
    · rintro ⟨earlier, n, later, hjudged, hn, hearlier⟩
      exact ⟨earlier, n, later, hjudged, fun m hm => Node.violation?_eq_none.1 (hearlier m hm),
        Node.violation?_eq_some.1 hn⟩
    · rintro ⟨earlier, n, later, hjudged, hearlier, hn⟩
      exact ⟨earlier, n, later, hjudged, Node.violation?_eq_some.2 hn,
        fun m hm => Node.violation?_eq_none.2 (hearlier m hm)⟩

/-- What stands below an argument is not judged, and the first violation counts. -/
example :
    (Event.ofNodes
      [{ tag := "execute", children :=
          [{ tag := "Arg", children := [{ tag := "unheard" }] },
            { tag := "P", attributes := [("Id", "a"), ("Color", "red")] }] },
        { tag := "unheard" }]).result = .error (.invalidAttribute "color" "P") := by cbv

end PageScript
