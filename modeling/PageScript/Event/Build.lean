import PageScript.Error
import PageScript.Event.Basic
import PageScript.Report.Record
import PageScript.Text.Numeral
import PageScript.Text.Search

/-!
# Building events

A node becomes an event when its tag names a kind and every attribute is one of that kind's, names
being compared in lower case. The first violation in document order ends the building: the tag of a
node comes before its attributes, and those before its children. A flag whose value is neither a
true nor a false literal is taken as false with a warning; warnings given before a violation stand.
-/

namespace PageScript

/-- Whether a written value makes a flag true: `true` in any case, or an integer of 32 bits other
than zero. -/
def Flag.read (raw : String) : Bool :=
  if raw = "true" then true
  else if raw = "false" then false
  else
    match Text.readSigned? 32 raw with
    | some n => decide (n ≠ 0)
    | none => Text.sameIgnoringCase raw "true"

/-- Whether a written value plainly says false: `false` in any case, or an integer of 32 bits that
is zero. -/
def Flag.plainlyFalse (raw : String) : Bool :=
  Text.sameIgnoringCase raw "false" || Text.readSigned? 32 raw == some 0

/-- A flag's value was not recognized and taken as false. -/
structure BuildWarning where
  kind : Kind
  name : String
  value : String
  deriving DecidableEq, Repr

/-- The log record of a warning. -/
def BuildWarning.record (w : BuildWarning) : Record :=
  Level.warn.record .building "Boolean attribute value not recognized, treating as false"
    [("event", w.kind.tag), ("attribute", w.name), ("value", w.value)]

/-- What building gives: the warnings in order, and a result or the first violation. -/
structure Built (α : Type) where
  warnings : List BuildWarning
  result : Except Error α

namespace Built

/-- A result without warnings. -/
def done {α : Type} (a : α) : Built α := ⟨[], .ok a⟩

/-- A violation. -/
def fail {α : Type} (e : Error) : Built α := ⟨[], .error e⟩

/-- Goes on with a result; a violation ends the building. -/
def andThen {α β : Type} (x : Built α) (f : α → Built β) : Built β :=
  match x.result with
  | .error e => ⟨x.warnings, .error e⟩
  | .ok a =>
    let y := f a
    ⟨x.warnings ++ y.warnings, y.result⟩

instance : Monad Built where
  pure := done
  bind := andThen

@[simp] theorem result_pure {α : Type} (a : α) : (pure a : Built α).result = .ok a := rfl

@[simp] theorem warnings_pure {α : Type} (a : α) : (pure a : Built α).warnings = [] := rfl

theorem result_bind {α β : Type} (x : Built α) (f : α → Built β) :
    (x >>= f).result = x.result.bind fun a => (f a).result := by
  show (andThen x f).result = _
  unfold andThen
  cases x.result <;> rfl

end Built

/-- The typed value of a written attribute. -/
def typedValue (kind : Kind) (name raw : String) : ValueType → Built Value
  | .text => pure (.text raw)
  | .flag =>
    let value := Flag.read raw
    let warnings := if !value && !Flag.plainlyFalse raw then [⟨kind, name, raw⟩] else []
    ⟨warnings, .ok (.flag value)⟩

/-- The selectors and actions gathered from a node. -/
structure Gathered where
  selectors : Attributes := {}
  actions : Attributes := {}

/-- Sorts written attributes into selectors and actions; a selector comes first where both tables
have the name. -/
def gather (kind : Kind) (tag : String) : Gathered → List (String × String) → Built Gathered
  | g, [] => pure g
  | g, (rawName, raw) :: r =>
    let name := rawName.toLower
    match kind.schema.selectorType? name, kind.schema.actionType? name with
    | some ty, _ => do
      let value ← typedValue kind name raw ty
      gather kind tag { g with selectors := g.selectors.insert name value } r
    | none, some ty => do
      let value ← typedValue kind name raw ty
      gather kind tag { g with actions := g.actions.insert name value } r
    | none, none => Built.fail (.invalidAttribute name tag)

/-- The selectors followed by what the kind itself says about the element. -/
def withTarget (kind : Kind) (selectors : Attributes) : Attributes :=
  match kind.htmlTarget with
  | none => selectors
  | some target =>
    let selectors := selectors.insert "html_tag" (.text target.tag)
    match target.inputType with
    | none => selectors
    | some ty => selectors.insert "html_type" (.text ty)

/-- The actions together with a non-empty text of a node that keeps its text. -/
def withContent (content : Content) (text : Option String) (actions : Attributes) : Attributes :=
  match content, text with
  | .rawText, some t => if t.isEmpty then actions else actions.insert "content" (.text t)
  | _, _ => actions

/-- Whether a node is a positional argument. -/
def Node.isArg (n : Node) : Bool :=
  n.tag.toLower == "arg"

/-- The positional arguments among the children: their texts, a missing one being empty. -/
def argTexts (content : Content) (children : List Node) : List String :=
  match content with
  | .args => (children.filter Node.isArg).map fun n => n.text.getD ""
  | _ => []

mutual

/-- Builds the event of a node and all below it. -/
def Node.build : Node → Built Event
  | ⟨tag, attributes, text, children⟩ =>
    match Kind.ofTag? tag with
    | none => Built.fail (.unknownKind tag)
    | some kind => do
      let g ← gather kind tag {} attributes
      let events ← Node.buildAll (kind.content == .args) children
      pure {
        kind
        name := tag.toLower
        selectors := withTarget kind g.selectors
        actions := withContent kind.content text g.actions
        args := argTexts kind.content children
        text
        children := events }

/-- Builds the events of sibling nodes; arguments among them are passed over if `skipArgs`. -/
def Node.buildAll (skipArgs : Bool) : List Node → Built (List Event)
  | [] => pure []
  | n :: ns =>
    if skipArgs && n.isArg then Node.buildAll skipArgs ns
    else do
      let e ← n.build
      let es ← Node.buildAll skipArgs ns
      pure (e :: es)

end

/-- Builds the events of a script. -/
def Event.ofNodes (nodes : List Node) : Built (List Event) :=
  Node.buildAll false nodes

end PageScript
