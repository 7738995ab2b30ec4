import PageScript.Proofs.BindingLookups

/-!
# Attributes as they are inserted

Attributes come into being by insertions, one after another, and what they are is told by these: each
name stands once, where it was inserted first, and has the value that was inserted last. One more
insertion either replaces a value in place or adds a name at the end, so it never moves a name.

The attributes of an event are all made in this way. Its selectors are what its node has written, and
then what the kind says about the element; its actions are what the node has written, and then the
text that is kept.
-/

namespace PageScript
namespace Attributes

variable {a : Attributes} {inserts : List (String × Value)}

/-- Values that are inserted one after another. -/
def ofInserts (inserts : List (String × Value)) : Attributes :=
  inserts.foldl (fun a p => a.insert p.1 p.2) {}

/-- Attributes are what these insertions make of them. -/
structure Holds (inserts : List (String × Value)) (a : Attributes) : Prop where
  distinct : a.names.Nodup
  inserted : ∀ name, name ∈ a.names ↔ name ∈ inserts.map Prod.fst
  /-- A name stands before those that were first inserted after it. -/
  inOrder : a.names.Pairwise fun name later =>
    (inserts.map Prod.fst).idxOf name < (inserts.map Prod.fst).idxOf later
  /-- The value of a name is that of its last insertion. -/
  last : ∀ earlier name value later, inserts = earlier ++ (name, value) :: later →
    name ∉ later.map Prod.fst → a.get? name = some value
  other : ∀ name, name ∉ inserts.map Prod.fst → a.get? name = none
  /-- The pairs are those of the names, in their order, with what is found under them. -/
  listed : (a.entries.map fun p => (p.1, some p.2)) = a.names.map fun name => (name, a.get? name)
  /-- A name that has a value has a text or a flag. -/
  answered : ∀ name, (a.text? name).isSome = true ∨ (a.flag? name).isSome = true ↔ name ∈ a.names
  apart : ∀ name, a.text? name = none ∨ a.flag? name = none

/-! ## What holds of all attributes -/

theorem listed_of_nodup (h : a.names.Nodup) :
    (a.entries.map fun p => (p.1, some p.2)) = a.names.map fun name => (name, a.get? name) := by
  have hvalue (p : String × Value) (hp : p ∈ a.entries) : a.get? p.1 = some p.2 :=
    (Bindings.get?_eq_some_iff h).2 hp
  rw [names, Bindings.names, List.map_map]
  exact List.map_congr_left fun p hp => by rw [Function.comp_apply, hvalue p hp]

theorem answered_iff (a : Attributes) (name : String) :
    (a.text? name).isSome = true ∨ (a.flag? name).isSome = true ↔ name ∈ a.names := by
  have hget : (a.get? name).isSome = true ↔ name ∈ a.names := Bindings.isSome_get?_iff
  rw [← hget, text?, flag?]
  cases a.get? name with
  | none => simp
  | some value => cases value <;> simp [Value.text?, Value.flag?]

/-- No value is both a text and a flag. -/
theorem text?_or_flag?_eq_none (a : Attributes) (name : String) :
    a.text? name = none ∨ a.flag? name = none := by
  rw [text?, flag?]
  cases a.get? name with
  | none => exact .inl rfl
  | some value =>
    cases value with
    | text s => exact .inr rfl
    | flag b => exact .inl rfl

/-! ## Insertions -/

theorem names_insert (a : Attributes) (name : String) (value : Value) :
    (a.insert name value).names = if name ∈ a.names then a.names else a.names ++ [name] :=
  Bindings.names_put a.entries name value

theorem holds_empty : ({} : Attributes).Holds [] where
  distinct := List.nodup_nil
  inserted _ := .rfl
  inOrder := .nil
  last earlier name value later h := by simp at h
  other _ _ := rfl
  listed := rfl
  answered := answered_iff {}
  apart _ := .inl rfl

/-- A new name stands behind all that were inserted before, and one that is inserted again stays where
it stands. -/
theorem Holds.inOrder_insert (h : a.Holds inserts) (name : String) (value : Value) :
    (a.insert name value).names.Pairwise fun n later =>
      ((inserts ++ [(name, value)]).map Prod.fst).idxOf n <
        ((inserts ++ [(name, value)]).map Prod.fst).idxOf later := by
  rw [names_insert, List.map_append, List.map_singleton]
  -- where a name was inserted first does not depend on what comes after
  have hfirst {n : String} (hn : n ∈ a.names) :
      (inserts.map Prod.fst ++ [name]).idxOf n = (inserts.map Prod.fst).idxOf n :=
    List.idxOf_append_of_mem ((h.inserted n).1 hn)
  have hstill : a.names.Pairwise fun n later => (inserts.map Prod.fst ++ [name]).idxOf n <
      (inserts.map Prod.fst ++ [name]).idxOf later := by
    refine h.inOrder.imp_of_mem fun hn hlater hlt => ?_
    rw [hfirst hn, hfirst hlater]
    exact hlt
  by_cases hname : name ∈ a.names
  · rw [if_pos hname]
    exact hstill
  · rw [if_neg hname, List.pairwise_append]
    refine ⟨hstill, List.pairwise_singleton _ _, fun n hn last hlast => ?_⟩
    obtain rfl := List.mem_singleton.1 hlast
    have hnew : last ∉ inserts.map Prod.fst := mt (h.inserted last).2 hname
    have hold : (inserts.map Prod.fst).idxOf n < (inserts.map Prod.fst).length :=
      List.idxOf_lt_length_of_mem ((h.inserted n).1 hn)
    rw [hfirst hn, List.idxOf_append_of_notMem hnew]
    omega

/-- One more insertion adds a name at the end or replaces a value in place. -/
theorem Holds.insert (h : a.Holds inserts) (name : String) (value : Value) :
    (a.insert name value).Holds (inserts ++ [(name, value)]) where
  distinct := nodup_names_insert h.distinct name value
  inserted other := by
    rw [names_insert, List.map_append, List.mem_append, ← h.inserted, List.map_singleton,
      List.mem_singleton]
    by_cases hname : name ∈ a.names
    · rw [if_pos hname]
      refine ⟨.inl, ?_⟩
      rintro (hother | rfl)
      · exact hother
      · exact hname
    · rw [if_neg hname, List.mem_append, List.mem_singleton]
  inOrder := h.inOrder_insert name value
  last earlier n v later hinserts hn := by
    rw [get?_insert]
    rcases List.eq_nil_or_concat' later with rfl | ⟨later, p, rfl⟩
    · -- nothing comes after it, so it is the insertion that has been added
      obtain ⟨-, hlast⟩ := List.append_inj' hinserts rfl
      obtain ⟨rfl, rfl⟩ := Prod.mk.inj (List.cons.inj hlast).1
      exact if_pos rfl
    · -- the one that has been added is of another name, which leaves this value alone
      rw [← List.cons_append, ← List.append_assoc] at hinserts
      obtain ⟨hbefore, hlast⟩ := List.append_inj' hinserts rfl
      obtain rfl := (List.cons.inj hlast).1
      rw [List.map_append, List.mem_append, not_or] at hn
      have hne : n ≠ name := fun heq => hn.2 (by simp [heq])
      rw [if_neg hne]
      exact h.last earlier n v later hbefore hn.1
  other n hn := by
    rw [List.map_append, List.mem_append, not_or] at hn
    have hne : n ≠ name := fun heq => hn.2 (by simp [heq])
    rw [get?_insert, if_neg hne]
    exact h.other n hn.1
  listed := listed_of_nodup (nodup_names_insert h.distinct name value)
  answered := answered_iff _
  apart := text?_or_flag?_eq_none _

theorem holds_ofInserts (inserts : List (String × Value)) : (ofInserts inserts).Holds inserts := by
  induction inserts using List.reverseRecOn with
  | nil => exact holds_empty
  | append_singleton inserts p ih =>
    have hlast : ofInserts (inserts ++ [p]) = (ofInserts inserts).insert p.1 p.2 := by
      rw [ofInserts, List.foldl_append]
      rfl
    rw [hlast]
    exact ih.insert p.1 p.2

example : (ofInserts [("id", .text "a"), ("click", .flag true), ("id", .text "b")]).entries =
    [("id", .text "b"), ("click", .flag true)] := by
  decide

end Attributes

/-! ## Events and what their nodes insert -/

theorem Bindings.putAll_of_nodup {α : Type} {b : Bindings α} {pairs : List (String × α)}
    (h : (b.names ++ Bindings.names pairs).Nodup) : b.putAll pairs = b ++ pairs := by
  induction pairs generalizing b with
  | nil => exact (List.append_nil b).symm
  | cons p pairs ih =>
    have hnames : Bindings.names (b ++ [p]) = b.names ++ [p.1] := List.map_append
    have hnew : p.1 ∉ b.names := fun hmem =>
      (List.nodup_append.1 h).2.2 _ hmem _ (.head _) rfl
    have hput : b.putAll (p :: pairs) = (b.put p.1 p.2).putAll pairs := rfl
    rw [hput, Bindings.put_of_not_mem hnew, ih, List.append_assoc]
    · rfl
    · rw [hnames, List.append_assoc]
      exact h

theorem entries_ofInserts (inserts : List (String × Value)) :
    (Attributes.ofInserts inserts).entries = Bindings.settled inserts := by
  have hfold (a : Attributes) : (inserts.foldl (fun a p => a.insert p.1 p.2) a).entries =
      a.entries.putAll inserts := by
    induction inserts generalizing a with
    | nil => rfl
    | cons p inserts ih => exact ih (a.insert p.1 p.2)
  exact (hfold {}).trans (Bindings.putAll_nil inserts)

theorem Kind.nodup_targetEntries (kind : Kind) : (Bindings.names kind.targetEntries).Nodup :=
  (by decide +kernel : ∀ kind ∈ Kind.all, (Bindings.names kind.targetEntries).Nodup)
    kind kind.mem_all

/-- The attributes of an event are inserted as its node gives them: first those that are written, then
what the kind says about the element, or the text that is kept. -/
structure Node.Inserts (n : Node) (e : Event) : Prop where
  selectors : e.selectors =
    .ofInserts (n.given e.kind.schema.selectors ++ e.kind.targetEntries)
  actions : e.actions = .ofInserts (n.given e.kind.schema.actions ++ n.keptText)

theorem Node.Reads.inserts {n : Node} {e : Event} (h : n.Reads e) : n.Inserts e where
  selectors := by
    -- what the kind adds is in no table of selectors, so it is new there
    have hnames : (Bindings.names (Bindings.settled (n.given e.kind.schema.selectors)) ++
        Bindings.names e.kind.targetEntries).Nodup := by
      refine List.nodup_append.2 ⟨?_, e.kind.nodup_targetEntries, ?_⟩
      · rw [← Bindings.putAll_nil]
        exact Bindings.nodup_names_putAll (b := []) List.nodup_nil _
      · rintro name hgiven _ htarget rfl
        obtain ⟨p, hp, rfl⟩ := List.mem_map.1 htarget
        exact not_mem_names_given (e.kind.apart.2.1 p hp) hgiven
    refine congrArg Attributes.mk (h.selectors.trans (.trans ?_ (entries_ofInserts _).symm))
    rw [← Bindings.putAll_of_nodup hnames, ← Bindings.putAll_nil, ← Bindings.putAll_append,
      Bindings.putAll_nil]
  actions := congrArg Attributes.mk (h.actions.trans (entries_ofInserts _).symm)

mutual

/-- An event and all below it, in the order of the script. -/
def Event.all : Event → List Event
  | event@⟨_, _, _, _, _, _, children⟩ => event :: Event.allIn children

def Event.allIn : List Event → List Event
  | [] => []
  | event :: events => event.all ++ Event.allIn events

end

mutual

/-- The events of a tree of nodes are those of its nodes without arguments, one each and in order. -/
theorem Node.Becomes.all {n : Node} {e : Event} : n.Becomes e →
    List.Forall₂ Node.Reads n.judged e.all
  | .intro here below => by
    obtain ⟨tag, attributes, text, children⟩ := n
    obtain ⟨⟩ := e
    rw [Event.all, Node.judged, Node.judgedAll_filter]
    exact .cons here below.allIn

theorem Node.BecomeAll.allIn {ns : List Node} {es : List Event} :
    Node.BecomeAll ns es → List.Forall₂ Node.Reads (Node.judgedAll false ns) (Event.allIn es)
  | .nil => by
    rw [Event.allIn, Node.judgedAll]
    exact .nil
  | .cons head tail => by
    rw [Event.allIn, Node.judgedAll, Bool.false_and]
    exact List.rel_append head.all tail.allIn

end

/-- **Attributes are a map in the order of insertion.** Take any values that are inserted one after
another. Each of their names stands once, in the order in which the names were inserted first; what is
found under a name is the value that was inserted last, and nothing under any other; the pairs are
these; and a name that stands there has a text or a flag, and never both. The attributes of every
event that is built are made of such insertions. -/
theorem holds_of_inserts :
    (∀ inserts, (Attributes.ofInserts inserts).Holds inserts) ∧
      ∀ nodes events, (Event.ofNodes nodes).result = .ok events →
        List.Forall₂ Node.Inserts (Node.judgedAll false nodes) (Event.allIn events) := by
  refine ⟨Attributes.holds_ofInserts, fun nodes events hbuilt => ?_⟩
  exact (becomeAll_of_built hbuilt).1.allIn.imp fun _ _ hreads => hreads.inserts

/-- A selector is written twice in different cases, and a text is kept under a name that is written
before another one: both values are replaced in place. -/
theorem holds_of_inserts_replaced :
    let nodes : List Node :=
      [{ tag := "link", attributes := [("ID", "a"), ("click", "TRUE"), ("title", "c"), ("id", "b")] },
        { tag := "javascript", attributes := [("content", "old"), ("file", "a.js")],
          text := some "new" }]
    let events : List Event :=
      [{ kind := .markup .link, name := "link",
         selectors := ⟨[("id", .text "b"), ("title", .text "c"), ("html_tag", .text "a")]⟩,
         actions := ⟨[("click", .flag true)]⟩ },
        { kind := .command .javascript, name := "javascript",
          actions := ⟨[("content", .text "new"), ("file", .text "a.js")]⟩, text := some "new" }]
    (Event.ofNodes nodes).result = .ok events ∧
      List.Forall₂ Node.Inserts (Node.judgedAll false nodes) (Event.allIn events) := by
  intro nodes events
  have hbuilt : (Event.ofNodes nodes).result = .ok events := by cbv
  exact ⟨hbuilt, holds_of_inserts.2 nodes events hbuilt⟩

end PageScript
