import PageScript.Bindings
import PageScript.Document.Yaml.Token

/-!
# YAML documents as trees

Tokens make a tree of scalars, sequences and mappings. A node may be named by an anchor, and an
alias stands for the node of that name that started last before it. Anchors are kept as numbers: a
name that is new takes the number of names so far, and so does a name that is taken again; where a
number is taken twice, it means the later node for all aliases.
-/

namespace PageScript.Yaml

/-- A node of a document. -/
inductive Tree where
  | scalar (anchor : Option Nat) (tag : Option Tag) (style : Style) (text : String)
  | sequence (anchor : Option Nat) (items : List Tree)
  | mapping (anchor : Option Nat) (entries : List (Tree × Tree))
  | alias (anchor : Nat)
  deriving Repr

namespace Tree

/-- The node where nothing is written. -/
def empty : Tree := .scalar none none .plain ""

mutual

/-- The nodes with anchors in a tree, in the order in which they start. -/
def anchored : Tree → List (Nat × Tree)
  | t@(.scalar anchor _ _ _) => anchor.toList.map fun n => (n, t)
  | t@(.sequence anchor items) => anchor.toList.map (fun n => (n, t)) ++ anchoredItems items
  | t@(.mapping anchor entries) => anchor.toList.map (fun n => (n, t)) ++ anchoredEntries entries
  | .alias _ => []

/-- The nodes with anchors among items. -/
def anchoredItems : List Tree → List (Nat × Tree)
  | [] => []
  | t :: r => t.anchored ++ anchoredItems r

/-- The nodes with anchors among entries. -/
def anchoredEntries : List (Tree × Tree) → List (Nat × Tree)
  | [] => []
  | (k, v) :: r => k.anchored ++ v.anchored ++ anchoredEntries r

end

mutual

/-- The number of places in a tree where something starts or ends. -/
def weight : Tree → Nat
  | .scalar .. | .alias _ => 1
  | .sequence _ items => 2 + weightOfItems items
  | .mapping _ entries => 2 + weightOfEntries entries

/-- The number of such places among items. -/
def weightOfItems : List Tree → Nat
  | [] => 0
  | t :: r => t.weight + weightOfItems r

/-- The number of such places among entries. -/
def weightOfEntries : List (Tree × Tree) → Nat
  | [] => 0
  | (k, v) :: r => k.weight + v.weight + weightOfEntries r

end

end Tree

/-- What is left of the tokens of a document, and the names known so far. -/
structure Draft where
  tokens : List Token
  handles : Bindings Tag := []
  anchors : Bindings Nat := []

/-- A step of building a tree, which fails where the tokens make none. -/
abbrev Builder := StateT Draft Option

namespace Builder

/-- The next token. -/
def peek : Builder (Option Token) := return (← get).tokens.head?

/-- Passes over a token. -/
def pass : Builder Unit := modify fun d => { d with tokens := d.tokens.drop 1 }

/-- Passes over a token if it is next, and tells whether it was. -/
def passIf (isThat : Token → Bool) : Builder Bool := do
  if (← peek).any isThat then
    pass
    return true
  else return false

/-- The tag that a written tag is, if its handle is known. -/
def resolve (t : WrittenTag) : Builder Tag := do
  if t.handle.isEmpty then return t.suffix
  let lead ← ((← get).handles.get? (String.ofList t.handle) : Option Tag)
  return lead ++ t.suffix

/-- The number of an anchor. -/
def takeAnchor (name : String) : Builder Nat := do
  let d ← get
  let number := d.anchors.length
  set { d with anchors := d.anchors.put name number }
  return number

/-- The anchor and the tag before a node, in either order. -/
def properties : Builder (Option String × Option WrittenTag) := do
  match ← peek with
  | some (.anchor name) =>
    pass
    match ← peek with
    | some (.tag t) => pass; return (some name, some t)
    | _ => return (some name, none)
  | some (.tag t) =>
    pass
    match ← peek with
    | some (.anchor name) => pass; return (some name, some t)
    | _ => return (none, some t)
  | _ => return (none, none)

/-- Whether nothing is written before a token inside a block. -/
def endsPart : Token → Bool
  | .key | .value | .blockEnd => true
  | _ => false

/-- Whether nothing is written before a token inside a flow mapping. -/
def endsFlowPart : Token → Bool
  | .value | .flowEntry | .flowMappingEnd => true
  | _ => false

mutual

/-- A node: `inBlock` says whether it can be a block, and `dashes` whether it can be a sequence that
is not indented. -/
def node : Nat → (inBlock dashes : Bool) → Builder Tree
  | 0, _, _ => failure
  | fuel + 1, inBlock, dashes => do
    if let some (.alias name) ← peek then
      pass
      return .alias (← ((← get).anchors.get? name : Option Nat))
    let (name, written) ← properties
    let tag ← written.mapM resolve
    let anchor ← name.mapM takeAnchor
    match ← peek with
    | some .blockEntry =>
      if dashes then return .sequence anchor (← looseItems fuel)
      else if name.isSome || written.isSome then return .scalar anchor tag .plain ""
      else failure
    | some (.scalar style text) =>
      pass
      return .scalar anchor tag style text
    | some .flowSequenceStart => pass; return .sequence anchor (← flowItems fuel true)
    | some .flowMappingStart => pass; return .mapping anchor (← flowEntries fuel true)
    | next =>
      if inBlock && next matches some .blockSequenceStart then
        pass
        return .sequence anchor (← blockItems fuel)
      else if inBlock && next matches some .blockMappingStart then
        pass
        return .mapping anchor (← blockEntries fuel)
      else if name.isSome || written.isSome then return .scalar anchor tag .plain ""
      else failure

/-- The items of a sequence that is indented. -/
def blockItems : Nat → Builder (List Tree)
  | 0 => failure
  | fuel + 1 => do
    if ← passIf (· matches .blockEnd) then return []
    if !(← passIf (· matches .blockEntry)) then failure
    let nothing := (← peek).any fun t => t matches .blockEntry || t matches .blockEnd
    let item ← if nothing then pure .empty else node fuel true false
    return item :: (← blockItems fuel)

/-- The items of a sequence that is not indented. -/
def looseItems : Nat → Builder (List Tree)
  | 0 => failure
  | fuel + 1 => do
    if !(← passIf (· matches .blockEntry)) then return []
    let nothing := (← peek).any fun t => t matches .blockEntry || endsPart t
    let item ← if nothing then pure .empty else node fuel true false
    return item :: (← looseItems fuel)

/-- A key or a value of a mapping in a block. -/
def blockPart : Nat → Builder Tree
  | 0 => failure
  | fuel + 1 => do
    if (← peek).any endsPart then return .empty
    node fuel true true

/-- The entries of a mapping in a block. -/
def blockEntries : Nat → Builder (List (Tree × Tree))
  | 0 => failure
  | fuel + 1 => do
    if ← passIf (· matches .blockEnd) then return []
    if !(← passIf (· matches .key)) then failure
    let key ← blockPart fuel
    let value ← if ← passIf (· matches .value) then blockPart fuel else pure .empty
    return (key, value) :: (← blockEntries fuel)

/-- An entry of a flow sequence that is a mapping of one key. A key that is missing takes the place
of the token after it. -/
def singleEntry : Nat → Builder Tree
  | 0 => failure
  | fuel + 1 => do
    let nothing := (← peek).any fun t =>
      t matches .value || t matches .flowEntry || t matches .flowSequenceEnd
    let key ←
      if nothing then
        pass
        pure .empty
      else node fuel false false
    let value ←
      if ← passIf (· matches .value) then
        if (← peek).any fun t => t matches .flowEntry || t matches .flowSequenceEnd then pure .empty
        else node fuel false false
      else pure .empty
    return .mapping none [(key, value)]

/-- The items of a flow sequence; between two of them there is a comma. -/
def flowItems : Nat → (first : Bool) → Builder (List Tree)
  | 0, _ => failure
  | fuel + 1, first => do
    if ← passIf (· matches .flowSequenceEnd) then return []
    if !first then
      if !(← passIf (· matches .flowEntry)) then failure
      if ← passIf (· matches .flowSequenceEnd) then return []
    let item ←
      if ← passIf (· matches .key) then singleEntry fuel else node fuel false false
    return item :: (← flowItems fuel false)

/-- The entries of a flow mapping; between two of them there is a comma. -/
def flowEntries : Nat → (first : Bool) → Builder (List (Tree × Tree))
  | 0, _ => failure
  | fuel + 1, first => do
    if ← passIf (· matches .flowMappingEnd) then return []
    if !first then
      if !(← passIf (· matches .flowEntry)) then failure
      if ← passIf (· matches .flowMappingEnd) then return []
    let entry ←
      if ← passIf (· matches .key) then
        let key ← if (← peek).any endsFlowPart then pure .empty else node fuel false false
        let value ←
          if ← passIf (· matches .value) then
            if (← peek).any fun t => t matches .flowEntry || t matches .flowMappingEnd then
              pure .empty
            else node fuel false false
          else pure .empty
        pure (key, value)
      else
        let key ← node fuel false false
        pure (key, .empty)
    return entry :: (← flowEntries fuel false)

end

/-! ## Documents -/

/-- The handles that need no directive. -/
def standardHandles : Bindings Tag :=
  [("!", Tag.bare), ("!!", Tag.standardLead)]

/-- Takes the directives before a document: at most one version, which must be known, and at most
one directive for a handle. -/
def directives : Nat → (versioned : Bool) → Builder Unit
  | 0, _ => failure
  | fuel + 1, versioned => do
    match ← peek with
    | some (.directive (.version major minor)) =>
      if versioned || major != 1 || !(minor == 1 || minor == 2) then failure
      pass
      directives fuel true
    | some (.directive (.handle name lead)) =>
      let d ← get
      let name := String.ofList name
      if (d.handles.get? name).isSome then failure
      set { d with handles := d.handles.put name lead }
      pass
      directives fuel versioned
    | _ => modify fun d => { d with handles := d.handles ++ standardHandles }

/-- The only document of the tokens; none if they are none. -/
def document : Builder (Option Tree) := do
  let fuel := 4 * (← get).tokens.length + 8
  match ← peek with
  | none => return none
  | some first =>
    directives fuel false
    let explicit ← passIf (· matches .documentStart)
    if !explicit && first matches .directive _ then failure
    let nothing := match ← peek with
      | none | some (.directive _) | some .documentStart | some .documentEnd => true
      | _ => false
    let tree ← if explicit && nothing then pure .empty else node fuel true false
    let rest := (← get).tokens.dropWhile (· matches .documentEnd)
    if rest.isEmpty then return some tree else failure

end Builder

/-- A text as a document: its tree, if it is not empty, and what the anchors in it mean. -/
structure Document where
  root : Option Tree
  anchored : List (Nat × Tree)

/-- The node of an anchor. -/
def Document.target? (d : Document) (anchor : Nat) : Option Tree :=
  d.anchored.reverse.lookup anchor

/-- The only document of a text, if the text is well formed. -/
def document? (text : String) : Option Document := do
  let tokens ← tokens? text
  let (root, _) ← Builder.document.run { tokens }
  return { root, anchored := (root.map Tree.anchored).getD [] }

end PageScript.Yaml
