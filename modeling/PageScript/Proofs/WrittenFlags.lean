import PageScript.Proofs.AcceptedNodes
import PageScript.Proofs.Numerals

/-!
# Flags that are written as integers

The rule for the text of a flag is that "true" and "false" map directly, that integers map to n != 0,
that otherwise "true" in any letters is true, and that anything else is false. So a flag that is written
as an integer is true unless the integer is zero, whatever the sign and the zeros in front, and building
takes it without a warning. This ends where the integer no longer fits 32 bits: such a flag is false
like any text that says neither, and building warns of it.

What building warns of is a matter of the nodes that are judged: the warnings are those of their
attributes in document order, up to where a violation ends the building (`Built.Warns`).
-/

namespace PageScript

open Text (Numeral)

/-! ## Reading numerals as flags -/

namespace Text.Numeral

/-- The integer fits 32 bits. -/
def Fits (n : Numeral) : Prop :=
  -(2 ^ 31) ≤ n.value ∧ n.value < 2 ^ 31

instance (n : Numeral) : Decidable n.Fits :=
  inferInstanceAs (Decidable (_ ∧ _))

theorem readSigned?_text (n : Numeral) :
    readSigned? 32 n.text = if n.Fits then some n.value else none := by
  rw [readSigned?, readInt?_text, Option.filter_some]
  by_cases h : n.Fits
  · rw [if_pos h]
    exact if_pos (decide_eq_true h)
  · rw [if_neg h]
    exact if_neg fun hfits => h (of_decide_eq_true hfits)

/-- A word without digits is no numeral, in whatever case. -/
theorem sameIgnoringCase_text (n : Numeral) {word : String}
    (hword : word.toLower.toList.any Char.isDigit = false) :
    sameIgnoringCase n.text word = false := by
  obtain ⟨c, hc, hdigit⟩ := n.exists_isDigit_text
  -- a digit has no other case
  have hlower : c.toLower = c := by
    refine Char.toLower_eq_of_not_isUpper ?_
    intro hupper
    have hle : c.toNat ≤ 57 := (Char.isDigit_iff_toNat.1 hdigit).2
    have hge : 65 ≤ c.toNat := UInt32.le_iff_toNat_le.1 (of_decide_eq_true hupper).1
    omega
  rw [sameIgnoringCase, beq_eq_false_iff_ne]
  intro heq
  have hmem : c ∈ word.toLower.toList := by
    rw [← heq, String.toLower, String.toList_map, ← hlower]
    exact List.mem_map_of_mem hc
  exact List.any_eq_false.1 hword c hmem hdigit

theorem text_ne (n : Numeral) {word : String}
    (hword : word.toLower.toList.any Char.isDigit = false) : n.text ≠ word := by
  intro heq
  have hsame := n.sameIgnoringCase_text hword
  rw [heq, sameIgnoringCase, beq_self_eq_true] at hsame
  cases hsame

end Text.Numeral

namespace Flag

/-- A value that says neither true nor false. -/
def unrecognized (raw : String) : Bool :=
  !read raw && !plainlyFalse raw

theorem isDigit_true : "true".toLower.toList.any Char.isDigit = false := by cbv

theorem isDigit_false : "false".toLower.toList.any Char.isDigit = false := by cbv

theorem read_text (n : Numeral) : read n.text = true ↔ n.value ≠ 0 ∧ n.Fits := by
  rw [read, if_neg (n.text_ne isDigit_true), if_neg (n.text_ne isDigit_false),
    n.readSigned?_text]
  by_cases h : n.Fits
  · simp [h]
  · simp [h, n.sameIgnoringCase_text isDigit_true]

theorem plainlyFalse_text (n : Numeral) : plainlyFalse n.text = true ↔ n.value = 0 ∧ n.Fits := by
  rw [plainlyFalse, n.sameIgnoringCase_text isDigit_false, Bool.false_or, n.readSigned?_text,
    beq_iff_eq]
  by_cases h : n.Fits
  · simp [h]
  · simp [h]

/-- **A numeral is recognized just when it fits.** -/
theorem unrecognized_text (n : Numeral) : unrecognized n.text = true ↔ ¬ n.Fits := by
  rw [unrecognized, Bool.and_eq_true, Bool.not_eq_true', Bool.not_eq_true', ← Bool.not_eq_true,
    ← Bool.not_eq_true, read_text, plainlyFalse_text]
  by_cases h : n.value = 0
  · simp [h]
  · simp [h]

end Flag

/-! ## What building warns of -/

/-- The type of an attribute, if the kind has it. -/
def Kind.attributeType? (kind : Kind) (name : String) : Option ValueType :=
  (kind.schema.selectorType? name).or (kind.schema.actionType? name)

/-- What a written attribute is warned of: a flag that says neither true nor false. -/
def Kind.warning? (kind : Kind) (a : String × String) : Option BuildWarning :=
  if kind.attributeType? a.1.toLower = some .flag ∧ Flag.unrecognized a.2 = true then
    some ⟨kind, a.1.toLower, a.2⟩
  else none

/-- What a node is warned of, leaving aside all below it. -/
def Node.warned (n : Node) : List BuildWarning :=
  match Kind.ofTag? n.tag with
  | none => []
  | some kind => n.attributes.filterMap kind.warning?

namespace Built

variable {α β : Type} {x : Built α} {f : α → Built β} {l l' : List BuildWarning}

/-- Building warns of this, and leaves out what comes after a violation. -/
structure Warns (x : Built α) (l : List BuildWarning) : Prop where
  isPrefix : x.warnings <+: l
  eq_of_ok : ∀ a, x.result = .ok a → x.warnings = l

theorem warnings_bind (x : Built α) (f : α → Built β) :
    (x >>= f).warnings = x.warnings ++
      match x.result with
      | .ok a => (f a).warnings
      | .error _ => [] := by
  show (andThen x f).warnings = _
  unfold andThen
  cases x.result with
  | ok a => rfl
  | error e => exact (List.append_nil _).symm

theorem warns_pure (a : α) : (pure a : Built α).Warns [] :=
  ⟨List.prefix_rfl, fun _ _ => rfl⟩

theorem warns_fail (e : Error) (l : List BuildWarning) : (fail e : Built α).Warns l :=
  ⟨List.nil_prefix, fun _ h => nomatch h⟩

theorem Warns.bind (hx : x.Warns l) (hf : ∀ a, (f a).Warns l') : (x >>= f).Warns (l ++ l') := by
  cases hresult : x.result with
  | error e =>
    refine ⟨?_, ?_⟩
    · rw [warnings_bind, hresult, List.append_nil]
      exact hx.isPrefix.trans (List.prefix_append l l')
    · intro b hb
      rw [result_bind, hresult] at hb
      cases hb
  | ok a =>
    refine ⟨?_, ?_⟩
    · rw [warnings_bind, hresult, hx.eq_of_ok a hresult]
      exact (List.prefix_append_right_inj l).2 (hf a).isPrefix
    · intro b hb
      rw [result_bind, hresult] at hb
      rw [warnings_bind, hresult, hx.eq_of_ok a hresult]
      exact congrArg (l ++ ·) ((hf a).eq_of_ok b hb)

end Built

open Built

theorem warns_typedValue (kind : Kind) (name raw : String) (ty : ValueType) :
    (typedValue kind name raw ty).Warns
      (match ty with
       | .flag => if Flag.unrecognized raw then [⟨kind, name, raw⟩] else []
       | .text => []) := by
  cases ty with
  | text => exact warns_pure _
  | flag => exact ⟨List.prefix_rfl, fun _ _ => rfl⟩

theorem warns_gather (kind : Kind) (tag : String) (attributes : List (String × String)) :
    ∀ g : Gathered, (gather kind tag g attributes).Warns (attributes.filterMap kind.warning?) := by
  induction attributes with
  | nil => exact warns_pure
  | cons a r ih =>
    intro g
    obtain ⟨rawName, raw⟩ := a
    -- what comes of the attribute itself, given its type
    have hhere {ty : ValueType} {f : Value → Built Gathered}
        (hty : kind.attributeType? rawName.toLower = some ty)
        (hf : ∀ value, (f value).Warns (r.filterMap kind.warning?)) :
        (typedValue kind rawName.toLower raw ty >>= f).Warns
          (((rawName, raw) :: r).filterMap kind.warning?) := by
      have htyped := (warns_typedValue kind rawName.toLower raw ty).bind hf
      rw [List.filterMap_cons, Kind.warning?, hty]
      cases ty with
      | text => exact htyped
      | flag =>
        by_cases h : Flag.unrecognized raw = true
        · simpa [h] using htyped
        · simpa [h] using htyped
    rw [gather]
    cases hs : kind.schema.selectorType? rawName.toLower with
    | some ty => exact hhere (by rw [Kind.attributeType?, hs]; rfl) fun value => ih _
    | none =>
      cases ha : kind.schema.actionType? rawName.toLower with
      | some ty => exact hhere (by rw [Kind.attributeType?, hs, ha]; rfl) fun value => ih _
      | none => exact warns_fail _ _

mutual

theorem Node.warns_build : ∀ n : Node, n.build.Warns (n.judged.flatMap Node.warned)
  | ⟨tag, attributes, text, children⟩ => by
    rw [Node.build, Node.judged, List.flatMap_cons, Node.warned]
    cases hkind : Kind.ofTag? tag with
    | none => exact warns_fail _ _
    | some kind =>
      dsimp only
      have hargs := Node.takesArgs_eq (n := ⟨tag, attributes, text, children⟩) hkind
      rw [← hargs]
      refine (warns_gather kind tag attributes {}).bind fun g => ?_
      rw [← List.append_nil (List.flatMap ..)]
      exact (Node.warns_buildAll _ children).bind fun events => warns_pure _

theorem Node.warns_buildAll (skipArgs : Bool) : ∀ ns : List Node,
    (Node.buildAll skipArgs ns).Warns ((Node.judgedAll skipArgs ns).flatMap Node.warned)
  | [] => by
    rw [Node.buildAll, Node.judgedAll]
    exact warns_pure _
  | n :: ns => by
    rw [Node.buildAll, Node.judgedAll]
    split
    · exact Node.warns_buildAll skipArgs ns
    · rw [List.flatMap_append]
      refine (Node.warns_build n).bind fun e => ?_
      rw [← List.append_nil (List.flatMap ..)]
      exact (Node.warns_buildAll skipArgs ns).bind fun es => warns_pure _

end

/-- Nothing that is warned of has been recognized. -/
theorem unrecognized_of_warned {n : Node} {w : BuildWarning} (h : w ∈ n.warned) :
    Flag.unrecognized w.value = true := by
  unfold Node.warned at h
  split at h
  · cases h
  · obtain ⟨a, _, hw⟩ := List.mem_filterMap.1 h
    unfold Kind.warning? at hw
    split at hw
    · next hflag =>
      cases hw
      exact hflag.2
    · cases hw

/-- **Integers of 32 bits are read by value.** A numeral makes a flag true if and only if it is not
zero and fits 32 bits. One that fits is never warned of, wherever it stands in a script and whether
or not the script is built; and a script that is built is warned of each flag whose numeral does not
fit. -/
theorem coerces_of_numeral (n : Numeral) :
    (Flag.read n.text = true ↔ n.value ≠ 0 ∧ n.Fits) ∧
    (n.Fits → ∀ nodes, ∀ w ∈ (Event.ofNodes nodes).warnings, w.value ≠ n.text) ∧
    (¬ n.Fits → ∀ nodes events, (Event.ofNodes nodes).result = .ok events →
      ∀ node ∈ Node.judgedAll false nodes, ∀ kind name, Kind.ofTag? node.tag = some kind →
        (name, n.text) ∈ node.attributes → kind.attributeType? name.toLower = some .flag →
          ⟨kind, name.toLower, n.text⟩ ∈ (Event.ofNodes nodes).warnings) := by
  have hwarns (nodes : List Node) : (Event.ofNodes nodes).Warns
      ((Node.judgedAll false nodes).flatMap Node.warned) := Node.warns_buildAll false nodes
  refine ⟨Flag.read_text n, ?_, ?_⟩
  · intro hfits nodes w hw heq
    have hwarned := (hwarns nodes).isPrefix.subset hw
    obtain ⟨node, _, hnode⟩ := List.mem_flatMap.1 hwarned
    have hunrecognized := unrecognized_of_warned hnode
    rw [heq, Flag.unrecognized_text] at hunrecognized
    exact hunrecognized hfits
  · intro hfits nodes events hbuilt node hnode kind name hkind hmem hflag
    have hwarned : kind.warning? (name, n.text) = some ⟨kind, name.toLower, n.text⟩ :=
      if_pos ⟨hflag, (Flag.unrecognized_text n).2 hfits⟩
    rw [(hwarns nodes).eq_of_ok events hbuilt, List.mem_flatMap]
    refine ⟨node, hnode, ?_⟩
    rw [Node.warned, hkind]
    exact List.mem_filterMap.2 ⟨_, hmem, hwarned⟩

/-- The smallest integer of 32 bits, with zeros in front, and the first one that is too large. -/
theorem coerces_of_extremes :
    let smallest : Numeral := ⟨.minus, 2, 2 ^ 31⟩
    let large : Numeral := ⟨.plus, 0, 2 ^ 31⟩
    let nodes : List Node :=
      [{ tag := "checkbox", attributes := [("Set", smallest.text)] },
        { tag := "checkbox", attributes := [("Set", large.text)] }]
    smallest.text = "-002147483648" ∧ Flag.read smallest.text = true ∧
      (∀ w ∈ (Event.ofNodes nodes).warnings, w.value ≠ smallest.text) ∧
      ⟨.control .checkbox, "set", large.text⟩ ∈ (Event.ofNodes nodes).warnings := by
  intro smallest large nodes
  have hsmallest := coerces_of_numeral smallest
  have hlarge := coerces_of_numeral large
  have hbuilt : (Event.ofNodes nodes).result.isOk = true := by decide +kernel
  cases hresult : (Event.ofNodes nodes).result with
  | error e =>
    rw [hresult] at hbuilt
    cases hbuilt
  | ok events =>
    have hname : "Set".toLower = "set" := by decide +kernel
    refine ⟨by decide +kernel, hsmallest.1.2 (by decide), hsmallest.2.1 (by decide) nodes, ?_⟩
    rw [← hname]
    exact hlarge.2.2 (by decide) nodes events hresult _ (.tail _ (.head _)) (.control .checkbox)
      "Set" (by decide +kernel) (.head _) (by decide +kernel)

/-- An integer of more than 32 bits is not zero and yet makes no flag true, and it is warned of. -/
theorem coerced_amiss :
    let n : Numeral := ⟨.none, 0, 2 ^ 31⟩
    n.text = "2147483648" ∧ n.value ≠ 0 ∧ Flag.read n.text = false ∧
      (Event.ofNodes [{ tag := "checkbox", attributes := [("set", n.text)] }]).warnings =
        [⟨.control .checkbox, "set", n.text⟩] := by
  decide +kernel

end PageScript
