import AddonAtlas.Yaml.Kind
import AddonAtlas.Yaml.Token

/-!
# Nodes of a YAML text

The tokens of a text make a graph of nodes. Nodes are numbered, so that an alias can name a node
that is there already, even one that encloses it.
-/

namespace AddonAtlas.Yaml

/-- What a node holds; other nodes by their numbers. -/
inductive Content
  | scalar (text : String)
  | sequence (items : List Nat)
  | mapping (entries : List (Nat × Nat))
  deriving DecidableEq, Repr

/-- Is it a mapping? -/
def Content.isMapping : Content → Bool
  | .mapping _ => true
  | _ => false

/-- A node. -/
structure Node where
  kind : Kind
  content : Content
  deriving DecidableEq, Repr

instance : Inhabited Node := ⟨⟨.null, .scalar ""⟩⟩

/-- A graph of nodes with its root; an empty text has none. -/
structure Graph where
  nodes : Array Node := #[]
  root : Option Nat := none

/-- The state of building a graph from tokens. -/
structure Builder where
  tokens : List Token
  nodes : Array Node := #[]
  anchors : List (String × Nat) := []
  handles : List (String × String) := []

/-- A step of building a graph. -/
abbrev Build := StateT Builder (Except Fault)

namespace Build

/-- The next token, without passing it. -/
def peek : Build Token := do
  match (← get).tokens with
  | .fault f :: _ => throw f
  | t :: _ => return t
  | [] => return .streamEnd

/-- Passes a token. -/
def pass : Build Unit :=
  modify fun b => { b with tokens := b.tokens.drop 1 }

/-- Passes the next token if it is this one. -/
def accept (t : Token) : Build Bool := do
  if (← peek) == t then
    pass
    return true
  return false

/-- Passes the next token, which has to be this one. -/
def expect (t : Token) : Build Unit := do
  unless ← accept t do throw .malformed

/-- Adds a node and gives its number. -/
def add (node : Node) : Build Nat := do
  let b ← get
  set { b with nodes := b.nodes.push node }
  return b.nodes.size

/-- Fills a node. -/
def fill (n : Nat) (node : Node) : Build Unit :=
  modify fun b => { b with nodes := b.nodes.setIfInBounds n node }

/-- Gives a node its name, which has to be new. -/
def name (anchor : Option String) (n : Nat) : Build Unit := do
  if let some anchor := anchor then
    modify fun b => { b with anchors := (anchor, n) :: b.anchors }

/-- Refuses a name that is taken. -/
def checkNew (anchor : Option String) : Build Unit := do
  if let some anchor := anchor then
    if ((← get).anchors.lookup anchor).isSome then throw .malformed

/-- A node without text. -/
def empty : Build Nat :=
  add ⟨.null, .scalar ""⟩

/-- An anchor, if there is one. -/
def anchor? : Build (Option String) := do
  match ← peek with
  | .anchor name => pass; return some name
  | _ => return none

/-- A tag, if there is one, in full. -/
def tag? : Build (Option String) := do
  match ← peek with
  | .tag name =>
    pass
    match name.handle with
    | none => return some name.suffix
    | some handle =>
      match (← get).handles.lookup handle with
      | some start => return some (start ++ name.suffix)
      | none => throw .malformed
  | _ => return none

/-- The anchor and the tag of a node, in either order. -/
def properties : Build (Option String × Option String) := do
  match ← anchor? with
  | some anchor => return (some anchor, ← tag?)
  | none =>
    let tag ← tag?
    return (← anchor?, tag)

/-- The kind of a node with an optional tag, of which a lone exclamation mark says nothing. -/
def kindOr (tag : Option String) (default : Kind) : Kind :=
  match tag with
  | none | some "!" => default
  | some tag => .ofTag tag

/-- The kind of a scalar. -/
def scalarKind (tag : Option String) (text : String) (plain : Bool) : Kind :=
  match tag with
  | none => if plain then .ofText text else .text
  | some "!" => .ofText text
  | some tag => .ofTag tag

/-- Which nodes are allowed at a place. -/
structure Place where
  /-- Block collections. -/
  block : Bool := false
  /-- Block sequences that are not indented. -/
  flush : Bool := false

mutual

/-- A node. -/
def node : (fuel : Nat) → Place → Build Nat
  | 0, _ => throw .malformed
  | fuel + 1, place => do
    if let .reference name ← peek then
      pass
      match (← get).anchors.lookup name with
      | some n => return n
      | none => throw .malformed
    let (anchor, tag) ← properties
    let sequence (items : Build (List Nat)) : Build Nat := do
      let n ← collection anchor
      fill n ⟨kindOr tag .sequence, .sequence (← items)⟩
      return n
    let mapping (entries : Build (List (Nat × Nat))) : Build Nat := do
      let n ← collection anchor
      fill n ⟨kindOr tag .mapping, .mapping (← entries)⟩
      return n
    match ← peek with
    | .blockEntry =>
      if place.flush then sequence (flushItems fuel) else bare anchor tag
    | .scalar text plain =>
      pass
      checkNew anchor
      let n ← add ⟨scalarKind tag text plain, .scalar text⟩
      name anchor n
      return n
    | .flowSequenceStart => pass; sequence (flowItems fuel true)
    | .flowMappingStart => pass; mapping (flowEntries fuel true)
    | .blockSequenceStart =>
      if place.block then pass; sequence (blockItems fuel) else bare anchor tag
    | .blockMappingStart =>
      if place.block then pass; mapping (blockEntries fuel) else bare anchor tag
    | _ => bare anchor tag
where
  /-- A collection that is still empty. -/
  collection (anchor : Option String) : Build Nat := do
    checkNew anchor
    let n ← add ⟨.null, .scalar ""⟩
    name anchor n
    return n
  /-- A node that has properties only. -/
  bare (anchor tag : Option String) : Build Nat := do
    if anchor.isNone && tag.isNone then throw .malformed
    checkNew anchor
    let n ← add ⟨kindOr tag .null, .scalar ""⟩
    name anchor n
    return n

/-- A node, or an empty one before one of these tokens. -/
def nodeUnless : (fuel : Nat) → Place → List Token → Build Nat
  | 0, _, _ => throw .malformed
  | fuel + 1, place, stops => do
    if stops.contains (← peek) then empty else node fuel place

/-- The items of a block sequence. -/
def blockItems : (fuel : Nat) → Build (List Nat)
  | 0 => throw .malformed
  | fuel + 1 => do
    if ← accept .blockEntry then
      let item ← nodeUnless fuel { block := true } [.blockEntry, .blockEnd]
      return item :: (← blockItems fuel)
    expect .blockEnd
    return []

/-- The items of a block sequence that is not indented. -/
def flushItems : (fuel : Nat) → Build (List Nat)
  | 0 => throw .malformed
  | fuel + 1 => do
    if ← accept .blockEntry then
      let item ← nodeUnless fuel { block := true } [.blockEntry, .key, .value, .blockEnd]
      return item :: (← flushItems fuel)
    return []

/-- The entries of a block mapping. -/
def blockEntries : (fuel : Nat) → Build (List (Nat × Nat))
  | 0 => throw .malformed
  | fuel + 1 => do
    let place := { block := true, flush := true }
    let stops : List Token := [.key, .value, .blockEnd]
    if ← accept .key then
      let key ← nodeUnless fuel place stops
      let value ← if ← accept .value then nodeUnless fuel place stops else empty
      return (key, value) :: (← blockEntries fuel)
    expect .blockEnd
    return []

/-- The items of a flow sequence; before all but the first there is a comma. -/
def flowItems : (fuel : Nat) → (first : Bool) → Build (List Nat)
  | 0, _ => throw .malformed
  | fuel + 1, first => do
    if ← accept .flowSequenceEnd then return []
    unless first do expect .flowEntry
    if ← accept .key then
      let n ← add ⟨.null, .scalar ""⟩
      let key ← nodeUnless fuel {} [.value, .flowEntry, .flowSequenceEnd]
      let value ← if ← accept .value then nodeUnless fuel {} [.flowEntry, .flowSequenceEnd]
        else empty
      fill n ⟨.mapping, .mapping [(key, value)]⟩
      return n :: (← flowItems fuel false)
    if ← accept .flowSequenceEnd then return []
    let item ← node fuel {}
    return item :: (← flowItems fuel false)

/-- The entries of a flow mapping; before all but the first there is a comma. -/
def flowEntries : (fuel : Nat) → (first : Bool) → Build (List (Nat × Nat))
  | 0, _ => throw .malformed
  | fuel + 1, first => do
    if ← accept .flowMappingEnd then return []
    unless first do expect .flowEntry
    if ← accept .key then
      let key ← nodeUnless fuel {} [.value, .flowEntry, .flowMappingEnd]
      let value ← if ← accept .value then nodeUnless fuel {} [.flowEntry, .flowMappingEnd]
        else empty
      return (key, value) :: (← flowEntries fuel false)
    if ← accept .flowMappingEnd then return []
    let key ← node fuel {}
    let value ← empty
    return (key, value) :: (← flowEntries fuel false)

end

/-- The tag handles that need no directive. -/
def knownHandles : List (String × String) :=
  [("!", "!"), ("!!", tagRoot)]

/-- The directives of a document. A version is given at most once and is 1, and a handle is given at
most once. -/
def directives : (fuel : Nat) → (versioned : Bool) → (handles : List (String × String)) → Build Unit
  | 0, _, _ => throw .malformed
  | fuel + 1, versioned, handles => do
    match ← peek with
    | .directive (.version major) =>
      pass
      if versioned || major != 1 then throw .malformed
      directives fuel true handles
    | .directive (.handle name start) =>
      pass
      if (handles.lookup name).isSome then throw .malformed
      directives fuel versioned ((name, start) :: handles)
    | .directive .other => pass; directives fuel versioned handles
    | _ => modify fun b => { b with handles := handles ++ knownHandles }

/-- Passes the ends of documents. -/
def documentEnds : (fuel : Nat) → Build Unit
  | 0 => throw .malformed
  | fuel + 1 => do if ← accept .documentEnd then documentEnds fuel

/-- The only document of a text. -/
def document (fuel : Nat) : Build (Option Nat) := do
  let root ← match ← peek with
    | .streamEnd => return none
    | .directive _ | .documentStart =>
      directives fuel false []
      expect .documentStart
      match ← peek with
      | .directive _ | .documentStart | .documentEnd | .streamEnd => empty
      | _ => node fuel { block := true }
    | _ =>
      modify fun b => { b with handles := knownHandles }
      node fuel { block := true }
  documentEnds fuel
  expect .streamEnd
  return some root

end Build

/-- The graph of a text. -/
def Graph.ofText (text : List Char) : Except Fault Graph := do
  let tokens := tokens text
  let (root, b) ← (Build.document (2 * tokens.length + 4)).run { tokens }
  return ⟨b.nodes, root⟩

end AddonAtlas.Yaml
