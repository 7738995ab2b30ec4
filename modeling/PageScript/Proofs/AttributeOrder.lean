import PageScript.Proofs.Course
import PageScript.Proofs.EventEchoes
import PageScript.Proofs.BindingLookups

/-!
# Attributes in another order

The attributes of a node may be written in any order, as long as no name stands twice: the events
that are built say the same, and so their runs are the same. Only selectors have to keep the order
they stand in among themselves, since the browser is given them as a list.

Whether a node is lawful does not depend on the order of its attributes, so the nodes are built or
refused together. What is sorted into the table of selectors is the same list in both, and what is
sorted into the table of actions is the same up to its order, so the same can be looked up in it.
-/

namespace PageScript

/-! ## Nodes -/

/-- Whether an attribute is a selector of the kind that the tag of a node names. -/
def Node.selects (n : Node) (a : String × String) : Bool :=
  (Kind.ofTag? n.tag).any fun kind => (kind.schema.selectorType? a.1.toLower).isSome

/-- No attribute of a node stands twice, whatever the case of its name. -/
def Node.Distinct (n : Node) : Prop :=
  (n.attributes.map fun a => a.1.toLower).Nodup

instance (n : Node) : Decidable n.Distinct :=
  inferInstanceAs (Decidable (List.Nodup _))

/-- A node with the attributes of another one in another order, in which the selectors come one
after another as before. -/
structure Node.Reorders (n n' : Node) : Prop where
  tag_eq : n'.tag = n.tag
  text_eq : n'.text = n.text
  attributes : n.attributes.Perm n'.attributes
  selectors_eq : n'.attributes.filter n'.selects = n.attributes.filter n.selects

mutual

/-- A tree with the attributes of each of its nodes in another order. -/
inductive Node.Rearranged : Node → Node → Prop where
  | intro {n n' : Node} (here : n.Reorders n')
    (below : Node.RearrangedAll n.children n'.children) : Node.Rearranged n n'

/-- A forest with the attributes of each of its nodes in another order. -/
inductive Node.RearrangedAll : List Node → List Node → Prop where
  | nil : Node.RearrangedAll [] []
  | cons {n n' : Node} {ns ns' : List Node} (head : Node.Rearranged n n')
    (tail : Node.RearrangedAll ns ns') : Node.RearrangedAll (n :: ns) (n' :: ns')

end

namespace Node

variable {n n' : Node} {e e' : Event}

namespace Reorders

variable (h : n.Reorders n')

include h

theorem lawful (hn : n.Lawful) : n'.Lawful := by
  obtain ⟨kind, htag, hattributes⟩ := hn
  refine ⟨kind, by rw [h.tag_eq, htag], fun a ha => hattributes a (h.attributes.mem_iff.2 ha)⟩

theorem isArg_eq : n'.isArg = n.isArg := by rw [isArg, isArg, h.tag_eq]

theorem takesArgs_eq : n'.takesArgs = n.takesArgs := by rw [takesArgs, takesArgs, h.tag_eq]

theorem keptText_eq : n'.keptText = n.keptText := by
  rw [keptText, keptText, h.tag_eq, h.text_eq]

/-- The selectors are given in the same order. -/
theorem given_selectors_eq {kind : Kind} (hkind : Kind.ofTag? n.tag = some kind) :
    n'.given kind.schema.selectors = n.given kind.schema.selectors := by
  have hgiven {n : Node} (hkind : Kind.ofTag? n.tag = some kind) :
      n.given kind.schema.selectors = (n.attributes.filter n.selects).filterMap fun a =>
        (kind.schema.selectors.lookup a.1.toLower).map fun ty => (a.1.toLower, ty.value a.2) := by
    rw [given, List.filterMap_filter]
    refine List.filterMap_congr fun a _ => ?_
    rw [selects, hkind, Option.any_some, Schema.selectorType?]
    cases kind.schema.selectors.lookup a.1.toLower <;> rfl
  rw [hgiven hkind, hgiven (h.tag_eq ▸ hkind), h.selectors_eq]

end Reorders

theorem Distinct.nodup_given (h : n.Distinct) (table : AttributeTable) :
    (Bindings.names (n.given table)).Nodup := by
  rw [Distinct, List.Nodup, List.pairwise_map] at h
  rw [Bindings.names, List.Nodup, given, List.pairwise_map, List.pairwise_filterMap]
  refine h.imp fun {a b} hne p hp q hq => ?_
  obtain ⟨_, -, rfl⟩ := Option.map_eq_some_iff.1 hp
  obtain ⟨_, -, rfl⟩ := Option.map_eq_some_iff.1 hq
  exact hne

/-- What can be looked up in the actions does not depend on the order of the attributes. -/
theorem Reads.restates (hn : n.Reads e) (hn' : n'.Reads e') (h : n.Reorders n')
    (hdistinct : n.Distinct) (hargs : n'.takenArgs = n.takenArgs) : e.Restates e' := by
  have hname : e'.name = e.name := by rw [hn'.name, hn.name, h.tag_eq]
  have hkind : e'.kind = e.kind := Kind.tag_inj (by rw [hn'.kind, hn.kind, hname])
  have htag : Kind.ofTag? n.tag = some e.kind :=
    Kind.ofTag?_eq_some.2 (hn.kind.trans hn.name)
  have hselectors : e'.selectors.entries = e.selectors.entries := by
    rw [hn'.selectors, hn.selectors, hkind, h.given_selectors_eq htag]
  -- actions are looked up from the last one on, so the lists are compared from their ends
  have hactions : (n.given e.kind.schema.actions).reverse.Perm
      (n'.given e.kind.schema.actions).reverse :=
    (List.reverse_perm _).trans ((h.attributes.filterMap _).trans (List.reverse_perm _).symm)
  have hnames : (Bindings.names (n.given e.kind.schema.actions).reverse).Nodup := by
    rw [Bindings.names, List.map_reverse]
    exact List.nodup_reverse.2 (hdistinct.nodup_given _)
  refine {
    kind_eq := hkind
    name_eq := hname
    selectors_eq := by rw [Attributes.mk.injEq]; exact hselectors
    get?_eq := fun name => ?_
    args_eq := by rw [hn'.args, hn.args, hargs]
    text_eq := by rw [hn'.text, hn.text, h.text_eq] }
  have hget : (n.given e.kind.schema.actions).reverse.lookup name =
      (n'.given e.kind.schema.actions).reverse.lookup name :=
    Bindings.get?_eq_of_perm hnames hactions name
  rw [Attributes.get?, Attributes.get?, hn'.actions, hn.actions, hkind, h.keptText_eq,
    Bindings.get?_settled, Bindings.get?_settled, List.reverse_append, List.reverse_append,
    List.lookup_append, List.lookup_append, hget]

/-! ## Forests -/

theorem Rearranged.here : n.Rearranged n' → n.Reorders n'
  | .intro here _ => here

theorem Rearranged.children : n.Rearranged n' → RearrangedAll n.children n'.children
  | .intro _ below => below

/-- Arguments are told by their tags, which are the same. -/
theorem RearrangedAll.filter {ns ns' : List Node} (keep : Bool → Bool) : RearrangedAll ns ns' →
    RearrangedAll (ns.filter fun n => keep n.isArg) (ns'.filter fun n => keep n.isArg)
  | .nil => .nil
  | .cons head tail => by
    rw [List.filter_cons, List.filter_cons, head.here.isArg_eq]
    split
    · exact .cons head (tail.filter keep)
    · exact tail.filter keep

theorem RearrangedAll.texts_eq {ns ns' : List Node} : RearrangedAll ns ns' →
    (ns'.map fun n => n.text.getD "") = ns.map fun n => n.text.getD ""
  | .nil => rfl
  | .cons head tail => by
    rw [List.map_cons, List.map_cons, head.here.text_eq, tail.texts_eq]

theorem Rearranged.remaining (h : n.Rearranged n') : RearrangedAll n.remaining n'.remaining := by
  rw [Node.remaining, Node.remaining, h.here.takesArgs_eq]
  exact h.children.filter fun arg => !(n.takesArgs && arg)

theorem Rearranged.takenArgs_eq (h : n.Rearranged n') : n'.takenArgs = n.takenArgs := by
  rw [takenArgs, takenArgs, h.here.takesArgs_eq]
  exact (h.children.filter fun arg => n.takesArgs && arg).texts_eq

/-- The nodes that are judged in a tree: its own node, and those among the children that remain. -/
theorem judged_eq (n : Node) : n.judged = n :: judgedAll false n.remaining := by
  obtain ⟨tag, attributes, text, children⟩ := n
  rw [judged, judgedAll_filter]
  rfl

mutual

/-- A tree is as lawful as any that it is rearranged to. -/
theorem Rearranged.lawful {n n' : Node} : n.Rearranged n' → (∀ m ∈ n.judged, m.Lawful) →
    ∀ m ∈ n'.judged, m.Lawful
  | .intro here below, hlawful => by
    obtain ⟨tag, attributes, text, children⟩ := n
    obtain ⟨tag', attributes', text', children'⟩ := n'
    rw [judged] at hlawful ⊢
    obtain ⟨hhere, hbelow⟩ := List.forall_mem_cons.1 hlawful
    rw [here.takesArgs_eq]
    exact List.forall_mem_cons.2 ⟨here.lawful hhere, below.lawful hbelow⟩

theorem RearrangedAll.lawful {skipArgs : Bool} {ns ns' : List Node} : RearrangedAll ns ns' →
    (∀ m ∈ judgedAll skipArgs ns, m.Lawful) → ∀ m ∈ judgedAll skipArgs ns', m.Lawful
  | .nil, hlawful => hlawful
  | .cons head tail, hlawful => by
    rw [judgedAll] at hlawful ⊢
    rw [head.here.isArg_eq]
    split at hlawful
    · next hskipped =>
      rw [if_pos hskipped]
      exact tail.lawful hlawful
    · next hkept =>
      rw [if_neg hkept]
      obtain ⟨hhere, hrest⟩ := List.forall_mem_append.1 hlawful
      exact List.forall_mem_append.2 ⟨head.lawful hhere, tail.lawful hrest⟩

end

/-- Whether nodes are built does not depend on the order of their attributes. -/
theorem RearrangedAll.exists_events {ns ns' : List Node} {es : List Event}
    (h : RearrangedAll ns ns') (hbuilt : (Event.ofNodes ns).result = .ok es) :
    ∃ es', (Event.ofNodes ns').result = .ok es' := by
  have hwalk (ns : List Node) : (Event.ofNodes ns).error? =
      (judgedAll false ns).findSome? violation? := error?_buildAll false ns
  -- nodes are built just when nothing is found wrong with any of them
  have hlawful : ∀ n ∈ judgedAll false ns, n.Lawful := by
    have hnone : (Event.ofNodes ns).error? = none := by rw [Built.error?, hbuilt]
    rw [hwalk, List.findSome?_eq_none_iff] at hnone
    exact fun n hn => violation?_eq_none.1 (hnone n hn)
  have hnone : (Event.ofNodes ns').error? = none := by
    rw [hwalk, List.findSome?_eq_none_iff]
    exact fun n hn => violation?_eq_none.2 (h.lawful hlawful n hn)
  unfold Built.error? at hnone
  cases hresult : (Event.ofNodes ns').result with
  | ok es' => exact ⟨es', rfl⟩
  | error e =>
    rw [hresult] at hnone
    cases hnone

mutual

/-- **What is built of a rearranged tree says the same.** -/
theorem Becomes.echoes {n n' : Node} {e e' : Event} : n.Becomes e → n'.Becomes e' →
    n.Rearranged n' → (∀ m ∈ n.judged, m.Distinct) → e.Echoes e'
  | .intro here below, .intro here' below', h, hdistinct => by
    obtain ⟨hhere, hbelow⟩ := List.forall_mem_cons.1 (n.judged_eq ▸ hdistinct)
    exact .intro (here.restates here' h.here hhere h.takenArgs_eq)
      (below.echoAll below' h.remaining hbelow)

theorem BecomeAll.echoAll {ns ns' : List Node} {es es' : List Event} : BecomeAll ns es →
    BecomeAll ns' es' → RearrangedAll ns ns' → (∀ m ∈ judgedAll false ns, m.Distinct) →
    Event.EchoAll es es'
  | .nil, .nil, _, _ => .nil
  | .cons hn hns, .cons hn' hns', .cons head tail, hdistinct => by
    rw [Node.judgedAll, Bool.false_and, if_neg Bool.false_ne_true] at hdistinct
    obtain ⟨hhere, hrest⟩ := List.forall_mem_append.1 hdistinct
    exact .cons (hn.echoes hn' head hhere) (hns.echoAll hns' tail hrest)

end

end Node

/-! ## Runs -/

/-- **The order of actions does not matter.** Where nodes are built, none of which repeats the name
of an attribute, and the attributes of each are put in another order in which its selectors come as
before, events are built as well, and their runs are the same: they end alike, or neither ends, and
whatever the run remembers at the start, it remembers the same at the end. -/
theorem run_rearranged {nodes nodes' : List Node} {events : List Event}
    (hbuilt : (Event.ofNodes nodes).result = .ok events)
    (hdistinct : ∀ n ∈ Node.judgedAll false nodes, n.Distinct)
    (hrearranged : Node.RearrangedAll nodes nodes') :
    ∃ events', (Event.ofNodes nodes').result = .ok events' ∧
      ∀ {σ : Type} (setup : Setup) (o : Outside σ),
        (∀ calendar stopAt outside, Option.Rel Ended.Echoes
          (setup.run o calendar stopAt events outside)
          (setup.run o calendar stopAt events' outside)) ∧
        ∀ session w, Option.Rel World.Echoes.Both
          (World.run o (Journey.test setup events session) w)
          (World.run o (Journey.test setup events' session) w) := by
  obtain ⟨events', hbuilt'⟩ := hrearranged.exists_events hbuilt
  have hbecome {nodes : List Node} {events : List Event}
      (h : (Event.ofNodes nodes).result = .ok events) : Node.BecomeAll nodes events := by
    have hkept := Node.becomeAll_of_buildAll h
    simpa using hkept
  have hechoes : Event.EchoAll events events' :=
    (hbecome hbuilt).echoAll (hbecome hbuilt') hrearranged hdistinct
  refine ⟨events', hbuilt', fun setup o => ⟨fun calendar stopAt outside => ?_, fun session w => ?_⟩⟩
  · exact setup.echoes_run o calendar stopAt hechoes outside
  · exact World.Echoes.run (Journey.echoes_test hechoes session) (.refl w)

theorem run_rearranged_small :
    let nodes : List Node :=
      [{ tag := "var", attributes := [("Set", "a"), ("var", "v")], children :=
          [{ tag := "DIV", attributes := [("click", "true"), ("ID", "b"), ("css", "c")] }] }]
    let nodes' : List Node :=
      [{ tag := "var", attributes := [("var", "v"), ("Set", "a")], children :=
          [{ tag := "DIV", attributes := [("ID", "b"), ("css", "c"), ("click", "true")] }] }]
    ∃ events events' ended ended', (Event.ofNodes nodes).result = .ok events ∧
      (Event.ofNodes nodes').result = .ok events' ∧ Setup.smallRun [] none events = some ended ∧
      Setup.smallRun [] none events' = some ended' ∧ ended.Echoes ended' := by
  intro nodes nodes'
  let events : List Event :=
    [{ kind := .command .var, name := "var", actions := ⟨[("set", .text "a"), ("var", .text "v")]⟩,
       children :=
        [{ kind := .markup .div, name := "div",
           selectors := ⟨[("id", .text "b"), ("css", .text "c"), ("html_tag", .text "div")]⟩,
           actions := ⟨[("click", .flag true)]⟩ }] }]
  have hbuilt : (Event.ofNodes nodes).result = .ok events := by cbv
  have hdistinct : ∀ n ∈ Node.judgedAll false nodes, n.Distinct := by decide +kernel
  have hrearranged : Node.RearrangedAll nodes nodes' := by
    refine .cons (.intro ⟨rfl, rfl, by decide, by cbv⟩ ?_) .nil
    exact .cons (.intro ⟨rfl, rfl, by decide, by cbv⟩ .nil) .nil
  obtain ⟨events', hbuilt', hruns⟩ := run_rearranged hbuilt hdistinct hrearranged
  have hrun := (hruns (Setup.small []) .oneWindow).1 ⟨2020, 1, 1, 0, 0, 0⟩ none ()
  have hends : (Setup.smallRun [] none events).isSome = true := by decide +kernel
  obtain ⟨ended, hended⟩ := Option.isSome_iff_exists.1 hends
  rw [← Setup.smallRun, ← Setup.smallRun, hended] at hrun
  obtain ⟨ended', hended', hechoes⟩ : ∃ ended',
      Setup.smallRun [] none events' = some ended' ∧ ended.Echoes ended' := by
    generalize Setup.smallRun [] none events' = run at hrun ⊢
    cases hrun with
    | some h => exact ⟨_, rfl, h⟩
  exact ⟨events, events', ended, ended', hbuilt, hbuilt', hended, hended', hechoes⟩

end PageScript
