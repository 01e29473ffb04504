import TableGateway.Catalog.Source
import TableGateway.Query.Basic

/-!
# The graph of relationships

The nodes are the sources and whatever they refer to; there is an edge for every foreign key. A
path of foreign keys resolves to joins, and the sources can be ordered so that each comes after
those it refers to, unless they refer to each other in a circle.

Equal names are one node, in the spelling that was met first.
-/

namespace TableGateway.Catalog

/-- A foreign key from one node to another. -/
structure Edge where
  source : Value
  target : Value
  /-- The target as the source first named it. -/
  targetName : Value := target
  /-- What tells the edge from others between the same nodes. -/
  key : Value
  localProperty : Value
  foreignProperty : Value
deriving Repr, DecidableEq

/-- Nodes and edges, in the order in which they were first met. -/
structure Graph where
  nodes : List Value := []
  edges : List Edge := []
deriving Repr, DecidableEq

/-- Whether two edges are one and the same foreign key: they join the same nodes under the same
key. -/
def Edge.isSame (a b : Edge) : Bool :=
  a.source = b.source && a.target = b.target && a.key.equals b.key

/-- Adds an edge, in the place of the same edge if there is one, whose key it takes over. -/
def insertEdge (e : Edge) : List Edge → List Edge
  | [] => [e]
  | other :: rest =>
    if other.isSame e then { e with key := other.key } :: rest else other :: insertEdge e rest

/-- Why a path has no joins. -/
inductive PathError where
  | unknownSource (name : Value)
  | noRelationship (source property : Value)
  /-- Data that is no path. -/
  | data (e : ShapeError)
deriving Repr, DecidableEq

/-- What is reported of a path without joins. Data that is no path is not foreseen. -/
def PathError.failure : PathError → Failure
  | unknownSource name => .foreseen
      { area := .query, message := "Unknown source '" ++ name.shown ++ "'" }
  | noRelationship source property => .foreseen
      { area := .query, message := "'" ++ source.shown ++ "' has no relationship through '"
          ++ property.shown ++ "'" }
  | data e => .unexpected e.fault

/-- The fault of a value that is no node, if it is none. -/
def nodeFault? : Value → Option ShapeError
  | .null => some .nullNode
  | v => if v.isKey then none else some (.notAKey v)

/-- The fault of a relationship that is no edge, if it is none: its target is no node or its
property no key. -/
def edgeFault? (r : Relationship) : Option ShapeError :=
  (nodeFault? r.relationName).or
    (if r.localProperty.isKey then none else some (.notAKey r.localProperty))

namespace Graph

/-- Adds a node, unless it is there. -/
def insertNode (g : Graph) (v : Value) : Graph :=
  if g.nodes.any (·.equals v) then g else { g with nodes := g.nodes ++ [v] }

/-- The edges between two nodes. -/
def edgesBetween (g : Graph) (source target : Value) : List Edge :=
  g.edges.filter fun e => e.source = source && e.target = target

/-- A target as a source first named it. -/
def targetName (g : Graph) (source target : Value) : Option Value :=
  (g.edgesBetween source target).head?.map (·.targetName)

/-- The least whole number that can be a new key, among those not less than the number of keys. -/
def newKey (keys : List Value) : Value :=
  let candidates := (List.range (keys.length + 1)).map fun (k : Nat) => Value.int (keys.length + k)
  (candidates.find? fun k => !keys.any (·.equals k)).getD .null

/-- Adds the edge of a relationship, and its target. A relationship without a property gets a key of
its own. -/
def insertRelationship (g : Graph) (source : Value) (r : Relationship) : Graph :=
  let g := g.insertNode r.relationName
  let source := spelling g.nodes source
  let target := spelling g.nodes r.relationName
  let keys := (g.edgesBetween source target).map (·.key)
  let edge := {
    source, target
    targetName := (g.targetName source target).getD r.relationName
    key := if r.localProperty = .null then newKey keys else r.localProperty
    localProperty := r.localProperty, foreignProperty := r.foreignProperty }
  { g with edges := insertEdge edge g.edges }

/-- The relationships of sources, each with the name of its source. -/
def relationships (sources : List Source) : List (Value × Relationship) :=
  sources.flatMap fun s => s.belongsTo.map fun r => (s.name, r)

/-- The graph of nodes and of relationships between them. -/
def ofParts (names : List Value) (relationships : List (Value × Relationship)) : Graph :=
  relationships.foldl (fun g r => g.insertRelationship r.1 r.2) (names.foldl insertNode {})

/-- The graph of some sources, if nothing in them is at fault. Otherwise it ends before the first
fault, which is reported: first the nodes are added and then the edges, and of an edge that is at
fault the target is added if it is a node. -/
def build (sources : List Source) : Graph × Option ShapeError :=
  let names := sources.map (·.name)
  let isNode (v : Value) := (nodeFault? v).isNone
  match names.findSome? nodeFault? with
  | some fault => (ofParts (names.takeWhile isNode) [], some fault)
  | none =>
    let all := relationships sources
    let isEdge (r : Value × Relationship) := (edgeFault? r.2).isNone
    let g := ofParts names (all.takeWhile isEdge)
    match (all.dropWhile isEdge).head? with
    | none => (g, none)
    | some (_, r) =>
      (if isNode r.relationName then g.insertNode r.relationName else g, edgeFault? r)

/-- The nodes that a node refers to, in the order of its edges. -/
def targets (g : Graph) (node : Value) : List Value :=
  ((g.edges.filter (·.source = node)).map (·.target)).eraseDups

/-- The edges of a node, target by target. -/
def outgoing (g : Graph) (node : Value) : List Edge :=
  (g.targets node).flatMap (g.edgesBetween node)

/-- The edge of a node under a key. -/
def edge? (g : Graph) (node key : Value) : Option Edge :=
  (g.outgoing node).find? (·.key.compares key)

/-- The joins along the rest of a path, from a node, under the name by which it was reached, with
the path walked so far. -/
def joinsFrom (g : Graph) (node name : Value) (walked : List Value) :
    List Value → Except PathError (List Query.Join)
  | [] => .ok []
  | key :: rest =>
    match g.edge? node key with
    | none => .error (.noRelationship name key)
    | some e => do
      let path := walked ++ [key]
      let joins ← g.joinsFrom e.target e.targetName path rest
      return ⟨e.targetName, .array path, e.localProperty, e.foreignProperty⟩ :: joins

/-- The joins along a path of foreign keys. It should be a list; of an object only the first key is
tried. -/
def joinsFor (g : Graph) (name path : Value) : Except PathError (List Query.Join) :=
  match g.nodes.find? (·.equals name) with
  | none => .error (.unknownSource name)
  | some node => do
    let segments ← path.items.mapError .data
    let joins ← g.joinsFrom node name [] (if path.inOrder.isOk then segments else segments.take 1)
    if joins ≠ [] then
      path.inOrder.mapError .data
    return joins

/-- The other nodes that a node refers to. -/
def others (g : Graph) (node : Value) : List Value :=
  (g.targets node).filter (· ≠ node)

/-- The nodes that a node refers to and that are found different from it. -/
def dependencies (g : Graph) (node : Value) : List Value :=
  (g.targets node).filter fun target => !target.compares node

/-- The dependencies of a node, as it names them. -/
def dependencyNames (g : Graph) (node : Value) : List Value :=
  (g.dependencies node).map fun target => (g.targetName node target).getD target

/-- The nodes that are free to follow once `node` is placed: all they refer to is placed, and
`node` is the last of it. -/
def freed (g : Graph) (placed : List Value) (node : Value) : List Value :=
  g.nodes.filter fun n =>
    (g.others n).contains node && (g.others n).all placed.contains

/-- Places the nodes of a queue, and behind them those that become free, at most `count` nodes. -/
def sweep (g : Graph) : Nat → List Value → List Value → List Value
  | 0, placed, _ => placed
  | _, placed, [] => placed
  | count + 1, placed, node :: queue =>
    let placed := placed ++ [node]
    g.sweep count placed (queue ++ g.freed placed node)

/-- The nodes in an order in which each follows all it refers to, as far as there is one: nodes on
a circle and those behind it are missing. -/
def placeable (g : Graph) : List Value :=
  g.sweep g.nodes.length [] (g.nodes.filter fun n => (g.others n).isEmpty)

/-- The nodes ordered by how many others they refer to. -/
def byDependencies (g : Graph) : List Value :=
  g.nodes.mergeSort fun a b => (g.dependencies a).length ≤ (g.dependencies b).length

/-- The nodes in an order in which each follows all it refers to; if there is none, those that
refer to fewer others come first. -/
def dependencyOrder (g : Graph) : List Value :=
  let order := g.placeable
  if order.length = g.nodes.length then order else g.byDependencies

end Graph

end TableGateway.Catalog
