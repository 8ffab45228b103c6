import AddonAtlas.Yaml.Node
import AddonAtlas.Yaml.Scalar

/-!
# Data of a YAML text

The values of the nodes of a graph. Collections are valued level by level from the root, each once,
so that a graph with cycles has values too; the first fault met on the way is the fault of the text.
`Data.unfold` unfolds the values from the root down to a given depth.
-/

namespace AddonAtlas.Yaml

/-- The value of a node; other nodes by their numbers. -/
inductive Item
  | scalar (s : Scalar)
  | sequence (items : List Nat)
  | mapping (entries : List (Scalar × Nat))
  /-- A set, or a list of pairs. -/
  | other
  deriving DecidableEq, Repr

/-- The state of valuing a graph. -/
structure Valuation where
  nodes : Array Node
  items : Array (Option Item)
  /-- The collections that are still to be valued, last one first. -/
  waiting : List Nat := []

/-- A step of valuing a graph. -/
abbrev Valuing := StateT Valuation (Except Fault)

namespace Valuing

/-- A node. -/
def node (n : Nat) : Valuing Node :=
  return (← get).nodes.getD n default

/-- Notes the value of a node. -/
def record (n : Nat) (item : Item) : Valuing Unit :=
  modify fun v => { v with items := v.items.setIfInBounds n (some item) }

/-- The text of a scalar, or of what stands in for a mapping. The fuel is more than there are nodes, and
runs out only where a mapping encloses itself. -/
def textOf : (fuel : Nat) → Nat → Valuing String
  | 0, _ => throw .endless
  | fuel + 1, n => do
    match (← node n).content with
    | .scalar text => return text
    | .sequence _ => throw .malformed
    | .mapping entries =>
      match ← entries.findM? fun (key, _) => return (← node key).kind == .standIn with
      | some (_, value) => textOf fuel value
      | none => throw .malformed

/-- Values a node and gives its scalar. A collection has none, and waits for its turn. -/
def visit (n : Nat) : Valuing (Option Scalar) := do
  let v ← get
  match v.items.getD n none with
  | some (.scalar s) => return some s
  | some _ => return none
  | none =>
    let kind := (← node n).kind
    match kind with
    | .sequence | .mapping | .set | .orderedMap | .pairs =>
      record n .other
      modify fun v => { v with waiting := n :: v.waiting }
      return none
    | kind =>
      if kind == .unknown || kind == .merge || kind == .standIn then throw .malformed
      let text ← textOf (v.nodes.size + 1) n
      if kind == .moment && (← node n).content.isMapping then throw .mappingForMoment
      let scalar ← Scalar.read kind text
      record n (.scalar scalar)
      return some scalar

/-- The entries of a mapping, those that are merged into it first. `enclosing` are the mappings into
which this one is being merged; they add nothing to it. -/
def flatten : (fuel : Nat) → (enclosing : List Nat) → Nat → Valuing (List (Nat × Nat))
  | 0, _, _ => throw .malformed
  | fuel + 1, enclosing, n => do
    if enclosing.contains n then return []
    let .mapping entries := (← node n).content | throw .malformed
    let parts ← entries.mapM fun (key, value) => do
      match (← node key).kind with
      | .merge =>
        match (← node value).content with
        | .mapping _ => return (← flatten fuel (n :: enclosing) value, [])
        | .sequence items =>
          let merged ← items.mapM (flatten fuel (n :: enclosing))
          return (merged.reverse.flatten, [])
        | .scalar _ => throw .malformed
      | .standIn =>
        modify fun v => { v with nodes := v.nodes.modify key fun k => { k with kind := .text } }
        return ([], [(key, value)])
      | _ => return ([], [(key, value)])
    return (parts.map (·.1)).flatten ++ (parts.map (·.2)).flatten

/-- Values the entries of a mapping. Its keys have to be scalars. -/
def mappingEntries (n : Nat) : Valuing (List (Scalar × Nat)) := do
  let entries ← flatten ((← get).nodes.size + 1) [] n
  entries.mapM fun (key, value) => do
    let some scalar ← visit key | throw .malformed
    let _ ← visit value
    return (scalar, value)

/-- Values a list of pairs: a sequence of mappings with one entry each. -/
def pairItems (n : Nat) : Valuing Unit := do
  let .sequence items := (← node n).content | throw .malformed
  for item in items do
    match (← node item).content with
    | .mapping [(key, value)] =>
      let _ ← visit key
      let _ ← visit value
    | _ => throw .malformed

/-- Values a collection. -/
def collection (n : Nat) : Valuing Unit := do
  let node ← node n
  match node.kind with
  | .mapping => record n (.mapping (← mappingEntries n))
  | .set => let _ ← mappingEntries n
  | .orderedMap | .pairs => pairItems n
  | _ =>
    let .sequence items := node.content | throw .malformed
    let _ ← items.mapM visit
    record n (.sequence items)

/-- Values the collections that wait, level by level. -/
def collections : (fuel : Nat) → Valuing Unit
  | 0 => return
  | fuel + 1 => do
    let level := (← get).waiting.reverse
    modify fun v => { v with waiting := [] }
    level.forM collection
    unless (← get).waiting.isEmpty do collections fuel

end Valuing

/-- The values of a graph. -/
structure Data where
  items : Array (Option Item)
  root : Nat

/-- The values of a text; an empty one has none. -/
def Data.ofText (text : List Char) : Except Fault (Option Data) := do
  let graph ← Graph.ofText text
  match graph.root with
  | none => return none
  | some root =>
    let size := graph.nodes.size
    let value : Valuing Unit := do
      let _ ← Valuing.visit root
      Valuing.collections (size + 1)
    let (_, v) ← value.run { nodes := graph.nodes, items := .replicate size none }
    return some ⟨v.items, root⟩

/-- The value of a node, unfolded to a depth. -/
def Data.unfold (data : Data) : (depth : Nat) → Nat → Tree
  | depth, n =>
    match data.items.getD n none, depth with
    | some (.scalar s), _ => .scalar s
    | some (.sequence items), depth + 1 => .sequence (items.map (data.unfold depth))
    | some (.mapping entries), depth + 1 =>
      .mapping (entries.map fun (key, value) => (key, data.unfold depth value))
    | _, _ => .other

/-- Reads a text. Its value is unfolded as deep as settings stand. -/
def load : Loader := fun text =>
  match Data.ofText text with
  | .ok (some data) => .ok (data.unfold 3 data.root)
  | .ok none => .ok (.scalar .null)
  | .error fault => .error fault.failure

end AddonAtlas.Yaml
