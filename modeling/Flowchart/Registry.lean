import Flowchart.Layout
import Flowchart.Node

/-!
# Registry

The nodes of a chart, in order of discovery, and its connections, in order of recording.

A node is created the first time its id is asked for and never changes afterwards except for
its neighbour lists: the first request fixes kind, label, shape and position
(`getOrCreate`). A new node without a label shows its id, and it takes the next row, so its
height is given by the number of nodes before it.

Recording a connection needs both ends registered; the source is checked first. It appends the
connection every time, and adds each end to the other's neighbour list unless it is already
there, so the neighbour lists hold no repeats while the connection list may.
-/

namespace Flowchart

namespace Node

/-- Adds `id` to the heads of the node's outgoing edges, unless it is already one. -/
def linkTo (n : Node) (id : String) : Node :=
  if n.outgoing.contains id then n else { n with outgoing := n.outgoing ++ [id] }

/-- Adds `id` to the tails of the node's incoming edges, unless it is already one. -/
def linkFrom (n : Node) (id : String) : Node :=
  if n.incoming.contains id then n else { n with incoming := n.incoming ++ [id] }

@[simp] theorem id_linkTo (n : Node) (x : String) : (n.linkTo x).id = n.id := by
  unfold linkTo; split <;> rfl

@[simp] theorem id_linkFrom (n : Node) (x : String) : (n.linkFrom x).id = n.id := by
  unfold linkFrom; split <;> rfl

end Node

/-- What a node is made of when its id is new: kind, label, shape and seed abscissa. -/
structure Draft where
  kind : Kind := .node
  label : String := ""
  shape : Shape := .plain
  x : Int := 0
  deriving DecidableEq, Repr

/-- Why a connection cannot be recorded. -/
inductive RecordError where
  | unregistered (id : String)
  deriving DecidableEq, Repr

def RecordError.message : RecordError → String
  | .unregistered id => s!"node '{id}' is not registered"

/-- The nodes of a chart in order of discovery and its connections in order of recording. -/
structure Registry where
  nodes : List Node := []
  connections : List Connection := []
  deriving DecidableEq, Repr

namespace Registry

def empty : Registry := {}

def get? (r : Registry) (id : String) : Option Node := r.nodes.find? (·.id == id)

def contains (r : Registry) (id : String) : Bool := r.nodes.any (·.id == id)

def size (r : Registry) : Nat := r.nodes.length

def modify (r : Registry) (id : String) (f : Node → Node) : Registry :=
  { r with nodes := r.nodes.map fun n => if n.id == id then f n else n }

/-- The node a draft makes as the next node of the registry: a blank label shows the id, and the
node sits on the row after the last node's. -/
def fresh (layout : Layout) (r : Registry) (id : String) (d : Draft) : Node :=
  { id, kind := d.kind, label := if d.label.isEmpty then id else d.label, x := d.x,
    y := layout.rowY r.size, shape := d.shape }

/-- The node with the given id, made from the draft and appended if the id is new. -/
def getOrCreate (layout : Layout) (r : Registry) (id : String) (d : Draft) : Node × Registry :=
  match r.get? id with
  | some n => (n, r)
  | none =>
    let n := r.fresh layout id d
    (n, { r with nodes := r.nodes ++ [n] })

/-- Appends a connection and links its ends, whether or not they are registered. -/
def connect (r : Registry) (c : Connection) : Registry :=
  let r := { r with connections := r.connections ++ [c] }
  (r.modify c.source (·.linkTo c.target)).modify c.target (·.linkFrom c.source)

/-- Records a connection between two registered nodes; an unregistered source is reported
before an unregistered target, and a failed record changes nothing. -/
def record (r : Registry) (c : Connection) : Except RecordError Registry :=
  if !r.contains c.source then .error (.unregistered c.source)
  else if !r.contains c.target then .error (.unregistered c.target)
  else .ok (r.connect c)

@[simp] theorem connections_connect (r : Registry) (c : Connection) :
    (r.connect c).connections = r.connections ++ [c] := rfl

theorem getOrCreate_of_get?_eq_some {layout : Layout} {r : Registry} {id : String} {n : Node}
    (d : Draft) (h : r.get? id = some n) : r.getOrCreate layout id d = (n, r) := by
  simp [getOrCreate, h]

theorem getOrCreate_of_get?_eq_none {layout : Layout} {r : Registry} {id : String}
    (d : Draft) (h : r.get? id = none) :
    r.getOrCreate layout id d =
      (r.fresh layout id d, { r with nodes := r.nodes ++ [r.fresh layout id d] }) := by
  simp [getOrCreate, h]

theorem map_id_modify (r : Registry) (id : String) {f : Node → Node}
    (hf : ∀ n, (f n).id = n.id) : (r.modify id f).nodes.map (·.id) = r.nodes.map (·.id) := by
  simp only [modify, List.map_map]
  apply List.map_congr_left
  intro n _
  simp only [Function.comp]
  split <;> simp [hf]

@[simp] theorem map_id_connect (r : Registry) (c : Connection) :
    (r.connect c).nodes.map (·.id) = r.nodes.map (·.id) := by
  unfold connect
  rw [map_id_modify _ _ (fun n => Node.id_linkFrom n _),
    map_id_modify _ _ (fun n => Node.id_linkTo n _)]

theorem record_of_contains_eq_false_source {r : Registry} {c : Connection}
    (h : r.contains c.source = false) : r.record c = .error (.unregistered c.source) := by
  simp [record, h]

theorem record_of_contains {r : Registry} {c : Connection}
    (hs : r.contains c.source = true) (ht : r.contains c.target = true) :
    r.record c = .ok (r.connect c) := by
  simp [record, hs, ht]

end Registry

end Flowchart
