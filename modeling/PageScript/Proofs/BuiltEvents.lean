import PageScript.Proofs.AcceptedNodes

/-!
# What events keep of their nodes

Building loses nothing of a script and adds nothing to it. A node becomes one event, and its
children become the events below, one each and in their order; only the arguments of an execution or
an added program are taken out, and stand as texts beside the event. Selectors and actions are the
written attributes sorted by the tables of the kind: each name stands where it was written first,
with the value that it was given last. After the selectors comes what the kind itself says about
the element, and a text that is kept counts as one more attribute, written last.

A value is a flag where its table says so and a text everywhere else. An instruction that asks for a
value of one of the two forms gets no answer from the other, so one value of the wrong form would be
an instruction that is never carried out.
-/

namespace PageScript

/-! ## Pairs and their names -/

namespace Bindings

variable {α : Type}

/-- Each name of some pairs where it stands first, with the value it has last. -/
def settled (pairs : List (String × α)) : Bindings α :=
  (pairs.map Prod.fst).eraseDups.filterMap fun name =>
    (pairs.reverse.lookup name).map fun value => (name, value)

theorem putAll_append (earlier later : List (String × α)) (b : Bindings α) :
    b.putAll (earlier ++ later) = (b.putAll earlier).putAll later :=
  List.foldl_append

theorem get?_cons (p : String × α) (b : Bindings α) (name : String) :
    get? (p :: b) name = if name = p.1 then some p.2 else b.get? name := by
  obtain ⟨n, v⟩ := p
  by_cases h : name = n
  · simp [get?, h]
  · simp [get?, List.lookup_cons, h, beq_eq_false_iff_ne.2 h]

theorem get?_putAll (pairs : List (String × α)) (b : Bindings α) (name : String) :
    (b.putAll pairs).get? name = (pairs.reverse.lookup name).or (b.get? name) := by
  induction pairs generalizing b with
  | nil => rfl
  | cons p r ih =>
    have hfirst : b.putAll (p :: r) = (b.put p.1 p.2).putAll r := rfl
    have hlast : List.lookup name [p] = if name = p.1 then some p.2 else none := get?_cons p [] name
    rw [hfirst, ih, get?_put, List.reverse_cons, List.lookup_append, Option.or_assoc, hlast]
    by_cases h : name = p.1
    · rw [if_pos h, if_pos h, Option.some_or]
    · rw [if_neg h, if_neg h, Option.none_or]

theorem nodup_names_putAll {b : Bindings α} (h : b.names.Nodup) (pairs : List (String × α)) :
    (b.putAll pairs).names.Nodup := by
  induction pairs generalizing b with
  | nil => exact h
  | cons p r ih => exact ih (nodup_names_put h p.1 p.2)

theorem names_putAll_nil (pairs : List (String × α)) :
    names (putAll pairs []) = (pairs.map Prod.fst).eraseDups := by
  induction pairs using List.reverseRecOn with
  | nil => rfl
  | append_singleton earlier p ih =>
    have hlast : putAll (earlier ++ [p]) [] = (putAll earlier []).put p.1 p.2 := putAll_append ..
    rw [hlast, names_put, ih, List.map_append, List.eraseDups_append]
    by_cases h : p.1 ∈ earlier.map Prod.fst
    · rw [if_pos (List.mem_eraseDups.2 h)]
      simp [h, List.removeAll]
    · rw [if_neg (mt List.mem_eraseDups.1 h)]
      simp [h, List.removeAll, List.eraseDups_cons]

/-- Distinct names and what they are bound to are all there is to a list of pairs. -/
theorem eq_filterMap_names {b : Bindings α} (h : b.names.Nodup) :
    b = b.names.filterMap fun name => (b.get? name).map fun value => (name, value) := by
  induction b with
  | nil => rfl
  | cons p r ih =>
    obtain ⟨n, v⟩ := p
    obtain ⟨hn, hr⟩ := List.nodup_cons.1 (h : (n :: names r).Nodup)
    have hrest : ∀ name ∈ names r, get? ((n, v) :: r) name = get? r name := by
      intro name hname
      have hne : name ≠ n := fun heq => hn (heq ▸ hname)
      rw [get?_cons, if_neg hne]
    have hself : get? ((n, v) :: r) n = some v := by rw [get?_cons, if_pos rfl]
    show (n, v) :: r = (n :: names r).filterMap _
    rw [List.filterMap_cons, hself, Option.map_some]
    refine congrArg _ ((ih hr).trans (List.filterMap_congr fun name hname => ?_))
    rw [hrest name hname]

/-- Pairs that are put one after another settle. -/
theorem putAll_nil (pairs : List (String × α)) : putAll pairs [] = settled pairs := by
  have hnames : (names (putAll pairs [])).Nodup := nodup_names_putAll (b := []) List.nodup_nil pairs
  rw [eq_filterMap_names hnames, names_putAll_nil]
  exact List.filterMap_congr fun name _ => by rw [get?_putAll, get?_nil, Option.or_none]

theorem mem_of_lookup {pairs : List (String × α)} {name : String} {value : α}
    (h : pairs.lookup name = some value) : (name, value) ∈ pairs := by
  obtain ⟨earlier, later, rfl, -⟩ := List.lookup_eq_some_iff.1 h
  exact List.mem_append_right _ (List.mem_cons_self ..)

theorem mem_of_mem_settled {pairs : List (String × α)} {p : String × α} (h : p ∈ settled pairs) :
    p ∈ pairs := by
  obtain ⟨name, -, hp⟩ := List.mem_filterMap.1 h
  obtain ⟨value, hvalue, rfl⟩ := Option.map_eq_some_iff.1 hp
  exact List.mem_reverse.1 (mem_of_lookup hvalue)

theorem put_of_not_mem {b : Bindings α} {name : String} (h : name ∉ b.names) (value : α) :
    b.put name value = b ++ [(name, value)] := by
  induction b with
  | nil => rfl
  | cons p r ih =>
    obtain ⟨n, v⟩ := p
    have hname : name ≠ n ∧ name ∉ names r := by simpa [names] using h
    rw [put, if_neg (Ne.symm hname.1), ih hname.2, List.cons_append]

end Bindings

/-! ## What a node says -/

/-- The value of a written attribute. -/
def ValueType.value (raw : String) : ValueType → Value
  | .text => .text raw
  | .flag => .flag (Flag.read raw)

/-- The attributes of a node that a table has, in the order in which they are written, with names in
lower case and values of the types that the table gives them. -/
def Node.given (n : Node) (table : AttributeTable) : List (String × Value) :=
  n.attributes.filterMap fun a =>
    (table.lookup a.1.toLower).map fun ty => (a.1.toLower, ty.value a.2)

/-- The text of a node whose text is kept as its content, unless it is empty. -/
def Node.keptText (n : Node) : List (String × Value) :=
  if ["javascript", "whitelist"].any (Text.sameIgnoringCase n.tag) then
    (n.text.filter (· ≠ "")).toList.map fun t => ("content", .text t)
  else []

/-- What a kind itself says about the element. -/
def Kind.targetEntries (kind : Kind) : List (String × Value) :=
  match kind.htmlTarget with
  | none => []
  | some target =>
    ("html_tag", .text target.tag) :: target.inputType.toList.map fun ty => ("html_type", .text ty)

/-- The texts of a node's arguments, where it takes any. -/
def Node.takenArgs (n : Node) : List String :=
  (n.children.filter fun child => n.takesArgs && child.isArg).map fun child => child.text.getD ""

/-- The children of a node that are no arguments of it. -/
def Node.remaining (n : Node) : List Node :=
  n.children.filter fun child => !(n.takesArgs && child.isArg)

/-- Values that are flags where a table says so, and nowhere else. -/
def Typed (table : AttributeTable) (entries : Bindings Value) : Prop :=
  ∀ p ∈ entries, (∃ b, p.2 = .flag b) ↔ table.lookup p.1 = some .flag

/-- An event that says what a node says, leaving aside all below it. -/
structure Node.Reads (n : Node) (e : Event) : Prop where
  name : e.name = n.tag.toLower
  kind : e.kind.tag = e.name
  text : e.text = n.text
  args : e.args = n.takenArgs
  selectors : e.selectors.entries =
    Bindings.settled (n.given e.kind.schema.selectors) ++ e.kind.targetEntries
  actions : e.actions.entries =
    Bindings.settled (n.given e.kind.schema.actions ++ n.keptText)
  selectorsTyped : Typed e.kind.schema.selectors e.selectors.entries
  actionsTyped : Typed e.kind.schema.actions e.actions.entries

mutual

/-- An event that says what a node says, and so do those below it for the children that remain. -/
inductive Node.Becomes : Node → Event → Prop where
  | intro {n : Node} {e : Event} (here : n.Reads e) (below : Node.BecomeAll n.remaining e.children) :
    Node.Becomes n e

/-- Events that are those of some nodes, one each and in their order. -/
inductive Node.BecomeAll : List Node → List Event → Prop where
  | nil : Node.BecomeAll [] []
  | cons {n : Node} {e : Event} {ns : List Node} {es : List Event} (head : Node.Becomes n e)
    (tail : Node.BecomeAll ns es) : Node.BecomeAll (n :: ns) (e :: es)

end

/-! ## Sorting attributes -/

/-- No kind has a name in both of its tables, and what a kind adds stands in none. -/
theorem Kind.apart (kind : Kind) :
    (∀ p ∈ kind.schema.actions, kind.schema.selectors.lookup p.1 = none) ∧
      (∀ p ∈ kind.targetEntries, kind.schema.selectors.lookup p.1 = none) ∧
      (kind.content = .rawText → kind.schema.actions.lookup "content" = some .text) :=
  (by decide +kernel : ∀ kind ∈ Kind.all,
    (∀ p ∈ kind.schema.actions, kind.schema.selectors.lookup p.1 = none) ∧
      (∀ p ∈ kind.targetEntries, kind.schema.selectors.lookup p.1 = none) ∧
      (kind.content = .rawText → kind.schema.actions.lookup "content" = some .text))
    kind kind.mem_all

theorem Kind.actions_lookup_of_selector {kind : Kind} {name : String} {ty : ValueType}
    (h : kind.schema.selectors.lookup name = some ty) : kind.schema.actions.lookup name = none := by
  cases hfound : kind.schema.actions.lookup name with
  | none => rfl
  | some other =>
    have hnone := kind.apart.1 _ (Bindings.mem_of_lookup hfound)
    rw [h] at hnone
    cases hnone

theorem result_typedValue (kind : Kind) (name raw : String) (ty : ValueType) :
    (typedValue kind name raw ty).result = .ok (ty.value raw) := by
  cases ty <;> rfl

/-- The attributes that are sorted into a table are put there as they are written. -/
theorem gather_eq {kind : Kind} {tag : String} {attributes : List (String × String)} :
    ∀ {g g' : Gathered}, (gather kind tag g attributes).result = .ok g' →
      let n : Node := ⟨tag, attributes, none, []⟩
      g'.selectors.entries = g.selectors.entries.putAll (n.given kind.schema.selectors) ∧
        g'.actions.entries = g.actions.entries.putAll (n.given kind.schema.actions) := by
  induction attributes with
  | nil =>
    intro g g' h
    cases h
    exact ⟨rfl, rfl⟩
  | cons a r ih =>
    intro g g' h
    obtain ⟨rawName, raw⟩ := a
    rw [gather] at h
    dsimp only [Node.given, List.filterMap_cons]
    -- an attribute is taken as a selector, else as an action, else it is refused
    cases hs : kind.schema.selectorType? rawName.toLower with
    | some ty =>
      rw [hs] at h
      dsimp only at h
      rw [Built.result_bind, result_typedValue] at h
      have hs : kind.schema.selectors.lookup rawName.toLower = some ty := hs
      rw [hs, Kind.actions_lookup_of_selector hs]
      exact ih h
    | none =>
      rw [hs] at h
      have hs : kind.schema.selectors.lookup rawName.toLower = none := hs
      rw [hs]
      cases ha : kind.schema.actionType? rawName.toLower with
      | some ty =>
        rw [ha] at h
        dsimp only at h
        rw [Built.result_bind, result_typedValue] at h
        have ha : kind.schema.actions.lookup rawName.toLower = some ty := ha
        rw [ha]
        exact ih h
      | none =>
        rw [ha] at h
        cases h

/-! ## Values and their types -/

theorem Typed.append {table : AttributeTable} {b c : Bindings Value} (hb : Typed table b)
    (hc : Typed table c) : Typed table (b ++ c) := by
  intro p hp
  exact (List.mem_append.1 hp).elim (hb p) (hc p)

theorem Typed.settled {table : AttributeTable} {pairs : List (String × Value)}
    (h : Typed table pairs) : Typed table (Bindings.settled pairs) :=
  fun p hp => h p (Bindings.mem_of_mem_settled hp)

theorem Node.typed_given (n : Node) (table : AttributeTable) : Typed table (n.given table) := by
  intro p hp
  obtain ⟨a, -, ha⟩ := List.mem_filterMap.1 hp
  obtain ⟨ty, hty, rfl⟩ := Option.map_eq_some_iff.1 ha
  rw [hty]
  cases ty <;> simp [ValueType.value]

theorem Kind.typed_targetEntries (kind : Kind) :
    Typed kind.schema.selectors kind.targetEntries := by
  intro p hp
  rw [kind.apart.2.1 p hp]
  refine iff_of_false ?_ nofun
  rintro ⟨b, hb⟩
  unfold Kind.targetEntries at hp
  split at hp
  · cases hp
  · obtain rfl | hp := List.mem_cons.1 hp
    · cases hb
    · obtain ⟨ty, -, rfl⟩ := List.mem_map.1 hp
      cases hb

/-- The kind that a tag names keeps its text just when a node with this tag does. -/
theorem Node.keptText_eq {n : Node} {kind : Kind} (h : Kind.ofTag? n.tag = some kind) :
    n.keptText = if kind.content = .rawText then
      (n.text.filter (· ≠ "")).toList.map fun t => ("content", .text t) else [] := by
  have hkinds : ∀ kind ∈ Kind.all, [Kind.command .javascript, .command .whitelist].contains kind =
      (kind.content == .rawText) := by decide +kernel
  have hany : ["javascript", "whitelist"].any (Text.sameIgnoringCase n.tag) =
      (kind.content == .rawText) :=
    (Kind.any_tag_eq h [.command .javascript, .command .whitelist]).trans
      (hkinds kind kind.mem_all)
  rw [Node.keptText, hany]
  simp only [beq_iff_eq]

theorem Node.typed_keptText {n : Node} {kind : Kind} (h : Kind.ofTag? n.tag = some kind) :
    Typed kind.schema.actions n.keptText := by
  intro p hp
  rw [Node.keptText_eq h] at hp
  split at hp
  · next hraw =>
    obtain ⟨t, -, rfl⟩ := List.mem_map.1 hp
    rw [kind.apart.2.2 hraw]
    exact iff_of_false nofun nofun
  · cases hp

/-! ## What is added to the attributes -/

theorem not_mem_names_given {n : Node} {table : AttributeTable} {name : String}
    (h : table.lookup name = none) : name ∉ Bindings.names (Bindings.settled (n.given table)) := by
  intro hmem
  obtain ⟨p, hp, rfl⟩ := List.mem_map.1 hmem
  obtain ⟨a, -, ha⟩ := List.mem_filterMap.1 (Bindings.mem_of_mem_settled hp)
  obtain ⟨ty, hty, rfl⟩ := Option.map_eq_some_iff.1 ha
  rw [hty] at h
  cases h

theorem entries_withTarget {kind : Kind} {selectors : Attributes}
    (h : ∀ p ∈ kind.targetEntries, p.1 ∉ selectors.names) :
    (withTarget kind selectors).entries = selectors.entries ++ kind.targetEntries := by
  unfold withTarget Kind.targetEntries at *
  cases htarget : kind.htmlTarget with
  | none => exact (List.append_nil _).symm
  | some target =>
    rw [htarget] at h
    dsimp only at h ⊢
    have htag : "html_tag" ∉ Bindings.names selectors.entries := h _ (List.mem_cons_self ..)
    cases htype : target.inputType with
    | none => exact Bindings.put_of_not_mem htag _
    | some ty =>
      rw [htype] at h
      have hty : "html_type" ∉ Bindings.names selectors.entries :=
        h _ (List.mem_cons_of_mem _ (List.mem_cons_self ..))
      show Bindings.put "html_type" _ (Bindings.put "html_tag" _ selectors.entries) = _
      rw [Bindings.put_of_not_mem htag, Bindings.put_of_not_mem, List.append_assoc]
      · rfl
      · simpa [Bindings.names] using hty

theorem entries_withContent (content : Content) (text : Option String) (actions : Attributes) :
    (withContent content text actions).entries =
      actions.entries.putAll (if content = .rawText then
        (text.filter (· ≠ "")).toList.map fun t => ("content", .text t) else []) := by
  unfold withContent
  cases content with
  | children => rfl
  | args => rfl
  | rawText =>
    cases text with
    | none => rfl
    | some t =>
      rw [if_pos rfl]
      by_cases h : t = ""
      · simp [h, Bindings.putAll, Option.filter]
      · simp [h, Bindings.putAll, Attributes.insert, Option.filter]

/-! ## Trees and forests -/

theorem Node.argTexts_eq {n : Node} {kind : Kind} (h : Kind.ofTag? n.tag = some kind) :
    argTexts kind.content n.children = n.takenArgs := by
  rw [Node.takenArgs, ← Node.takesArgs_eq h]
  cases kind.content with
  | args => rfl
  | children => simp [argTexts]
  | rawText => simp [argTexts]

/-- What is built of a node says what the node says. -/
theorem Node.reads_built {n : Node} {kind : Kind} {g : Gathered} {e : Event}
    (hkind : Kind.ofTag? n.tag = some kind)
    (hgather : (gather kind n.tag {} n.attributes).result = .ok g)
    (hname : e.name = n.tag.toLower) (hk : e.kind = kind) (htext : e.text = n.text)
    (hselectors : e.selectors = withTarget kind g.selectors)
    (hactions : e.actions = withContent kind.content n.text g.actions)
    (hargs : e.args = argTexts kind.content n.children) : n.Reads e := by
  subst hk
  obtain ⟨hs, ha⟩ := gather_eq hgather
  have hs : g.selectors.entries = Bindings.settled (n.given e.kind.schema.selectors) :=
    hs.trans (Bindings.putAll_nil _)
  have hsel : e.selectors.entries =
      Bindings.settled (n.given e.kind.schema.selectors) ++ e.kind.targetEntries := by
    rw [hselectors, entries_withTarget, hs]
    intro p hp
    rw [Attributes.names, hs]
    exact not_mem_names_given (e.kind.apart.2.1 p hp)
  have hact : e.actions.entries =
      Bindings.settled (n.given e.kind.schema.actions ++ n.keptText) := by
    rw [hactions, entries_withContent, ha, ← Node.keptText_eq hkind, ← Bindings.putAll_nil,
      Bindings.putAll_append]
    rfl
  exact {
    name := hname
    kind := (Kind.ofTag?_eq_some.1 hkind).trans hname.symm
    text := htext
    args := hargs.trans (Node.argTexts_eq hkind)
    selectors := hsel
    actions := hact
    selectorsTyped := hsel ▸ ((n.typed_given _).settled.append e.kind.typed_targetEntries)
    actionsTyped := hact ▸ ((n.typed_given _).append (Node.typed_keptText hkind)).settled }

mutual

theorem Node.becomes_of_build : ∀ {n : Node} {e : Event}, n.build.result = .ok e → n.Becomes e
  | ⟨tag, attributes, text, children⟩, e, h => by
    rw [Node.build] at h
    cases hkind : Kind.ofTag? tag with
    | none =>
      rw [hkind] at h
      cases h
    | some kind =>
      rw [hkind] at h
      dsimp only at h
      rw [Built.result_bind] at h
      cases hgather : (gather kind tag {} attributes).result with
      | error cause =>
        rw [hgather] at h
        cases h
      | ok g =>
        rw [hgather] at h
        dsimp only [Except.bind] at h
        rw [Built.result_bind] at h
        cases hbelow : (Node.buildAll (kind.content == .args) children).result with
        | error cause =>
          rw [hbelow] at h
          cases h
        | ok events =>
          rw [hbelow] at h
          cases h
          refine .intro (Node.reads_built hkind hgather rfl rfl rfl rfl rfl rfl) ?_
          rw [Node.remaining, ← Node.takesArgs_eq (n := ⟨tag, attributes, text, children⟩) hkind]
          exact Node.becomeAll_of_buildAll hbelow

theorem Node.becomeAll_of_buildAll {skipArgs : Bool} : ∀ {ns : List Node} {es : List Event},
    (Node.buildAll skipArgs ns).result = .ok es →
      Node.BecomeAll (ns.filter fun n => !(skipArgs && n.isArg)) es
  | [], es, h => by
    rw [Node.buildAll] at h
    cases h
    exact .nil
  | n :: ns, es, h => by
    rw [Node.buildAll] at h
    split at h
    · next hskipped =>
      rw [List.filter_cons_of_neg (by simpa using hskipped)]
      exact Node.becomeAll_of_buildAll h
    · next hkept =>
      rw [List.filter_cons_of_pos (by rw [Bool.eq_false_iff.2 hkept]; rfl)]
      rw [Built.result_bind] at h
      cases hhead : n.build.result with
      | error cause =>
        rw [hhead] at h
        cases h
      | ok e =>
        rw [hhead] at h
        dsimp only [Except.bind] at h
        rw [Built.result_bind] at h
        cases htail : (Node.buildAll skipArgs ns).result with
        | error cause =>
          rw [htail] at h
          cases h
        | ok es' =>
          rw [htail] at h
          cases h
          exact .cons (Node.becomes_of_build hhead) (Node.becomeAll_of_buildAll htail)

end

/-! ## Nothing is lost -/

theorem Node.judgedAll_filter (skipArgs : Bool) (ns : List Node) :
    Node.judgedAll skipArgs ns =
      Node.judgedAll false (ns.filter fun n => !(skipArgs && n.isArg)) := by
  induction ns with
  | nil => rw [List.filter_nil, Node.judgedAll, Node.judgedAll]
  | cons n ns ih =>
    rw [Node.judgedAll]
    split
    · next hskipped => rw [List.filter_cons_of_neg (by simpa using hskipped), ih]
    · next hkept =>
      rw [List.filter_cons_of_pos (by rw [Bool.eq_false_iff.2 hkept]; rfl), Node.judgedAll, ih]
      rfl

mutual

/-- An event that comes of a node has as many below it as are judged below the node. -/
theorem Node.Becomes.count {n : Node} {e : Event} : n.Becomes e → e.count = n.judged.length
  | .intro _ below => by
    obtain ⟨tag, attributes, text, children⟩ := n
    obtain ⟨⟩ := e
    rw [Event.count, Node.judged, List.length_cons, Node.judgedAll_filter, below.countAll]
    exact Nat.add_comm ..

theorem Node.BecomeAll.countAll {ns : List Node} {es : List Event} :
    Node.BecomeAll ns es → Event.countAll es = (Node.judgedAll false ns).length
  | .nil => by
    rw [Event.countAll, Node.judgedAll]
    rfl
  | .cons head tail => by
    rw [Event.countAll, Node.judgedAll, head.count, tail.countAll, Bool.false_and]
    exact (List.length_append ..).symm

end

/-- **Nothing is lost, nothing is added.** The events of a script are its nodes without arguments,
one each and in their order, at every depth; each says what its node says, with values of the right
types, and there are as many of them as nodes are judged. -/
theorem becomeAll_of_built {nodes : List Node} {events : List Event}
    (h : (Event.ofNodes nodes).result = .ok events) :
    Node.BecomeAll nodes events ∧
      Event.countAll events = (Node.judgedAll false nodes).length := by
  have hall : Node.BecomeAll nodes events := by
    have hkept := Node.becomeAll_of_buildAll h
    simpa using hkept
  exact ⟨hall, hall.countAll⟩

theorem becomeAll_of_execution :
    let nodes : List Node :=
      [{ tag := "Execute", children :=
          [{ tag := "ARG", children := [{ tag := "unheard" }] },
            { tag := "link", attributes := [("ID", "a"), ("click", "TRUE"), ("id", "b")] },
            { tag := "arg", text := some "-v" }] }]
    let events : List Event :=
      [{ kind := .command .execute, name := "execute", args := ["", "-v"], children :=
          [{ kind := .markup .link, name := "link",
             selectors := ⟨[("id", .text "b"), ("html_tag", .text "a")]⟩,
             actions := ⟨[("click", .flag true)]⟩ }] }]
    (Event.ofNodes nodes).result = .ok events ∧ Node.BecomeAll nodes events ∧
      Event.countAll events = (Node.judgedAll false nodes).length := by
  intro nodes events
  have hbuilt : (Event.ofNodes nodes).result = .ok events := by cbv
  exact ⟨hbuilt, becomeAll_of_built hbuilt⟩

end PageScript
