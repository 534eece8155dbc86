import Flowchart.Chart

/-!
# The directed graph of a chart

The graph view of a chart is built with a directed-graph library (`GraphLibrary`). Every node of
the chart becomes a vertex, unless its id is one already; then every connection becomes an edge
tagged with it, unless its two ends are joined already (`ChartGraph.ofChart`). The view asks the
library for its vertices, successors, degrees, number of edges, acyclicity and topological order;
an id that is not a vertex has no edges.

`Digraph` is such a library. It keeps its vertices and its edges in order of addition, each edge
tagged with the connection it was added with. Adding an edge adds whichever end is missing as a
vertex, the source first, and an edge between ends joined already keeps its place and takes the
new connection. Degrees count edges, so a loop counts once as incoming and once as outgoing, and
the number of edges is the sum of the out-degrees of the vertices.

The topological order is built in layers. The first layer holds the vertices with no incoming
edge, in vertex order. Each layer is then taken vertex by vertex, and every edge out of that
vertex, in edge order, lowers the count of unprocessed incoming edges of its head; a head whose
count reaches zero joins the next layer at that moment. The order is the layers one after the
other. When some vertex never joins a layer the graph has a cycle, a loop included, and there
is no order.

Ids are sorted by code point, the order of `String`.
-/

namespace Flowchart

/-- A directed graph with ordered vertices and ordered edges. -/
structure Digraph where
  vertices : List String
  edges : List Connection
  deriving DecidableEq, Repr

namespace Digraph

def sameEnds (c d : Connection) : Bool := c.source == d.source && c.target == d.target

/-- The first connection of each ordered pair, in order of recording. -/
def firstOfEachPair (cs : List Connection) : List Connection :=
  cs.foldl (fun kept c => if kept.any (sameEnds c) then kept else kept ++ [c]) []

def empty : Digraph := ⟨[], []⟩

def contains (g : Digraph) (v : String) : Bool := g.vertices.contains v

def addNode (g : Digraph) (v : String) : Digraph :=
  if g.contains v then g else { g with vertices := g.vertices ++ [v] }

def hasEdge (g : Digraph) (u v : String) : Bool :=
  g.edges.any fun e => e.source == u && e.target == v

def addEdge (g : Digraph) (c : Connection) : Digraph :=
  let g := (g.addNode c.source).addNode c.target
  if g.hasEdge c.source c.target then
    { g with edges := g.edges.map fun e => if sameEnds e c then c else e }
  else { g with edges := g.edges ++ [c] }

def successors (g : Digraph) (v : String) : List String :=
  (g.edges.filter (·.source == v)).map (·.target)

def predecessors (g : Digraph) (v : String) : List String :=
  (g.edges.filter (·.target == v)).map (·.source)

def edgeData? (g : Digraph) (u v : String) : Option Connection :=
  g.edges.find? fun e => e.source == u && e.target == v

def inDegree (g : Digraph) (v : String) : Nat := (g.edges.filter (·.target == v)).length

def outDegree (g : Digraph) (v : String) : Nat := (g.edges.filter (·.source == v)).length

def numberOfEdges (g : Digraph) : Nat := (g.vertices.map g.outDegree).foldr (· + ·) 0

def lower (counts : String → Nat) (v : String) : String → Nat :=
  fun w => if w == v then counts w - 1 else counts w

/-- Takes one layer: each edge out of it lowers the count of its head, and a head whose count
reaches zero joins the next layer. Gives the next layer and the lowered counts. -/
def nextLayer (g : Digraph) (layer : List String) (counts : String → Nat) :
    List String × (String → Nat) :=
  (layer.flatMap g.successors).foldl
    (fun (next, counts) head =>
      let counts := lower counts head
      (if counts head == 0 then next ++ [head] else next, counts))
    ([], counts)

def layersFrom (g : Digraph) : Nat → List String → (String → Nat) → List (List String)
  | 0, _, _ => []
  | _ + 1, [], _ => []
  | fuel + 1, layer, counts =>
    let (next, counts) := g.nextLayer layer counts
    layer :: g.layersFrom fuel next counts

def sources (g : Digraph) : List String := g.vertices.filter (g.inDegree · == 0)

/-- The layers of the graph. Each layer holds at least one vertex not seen before, so there are
no more layers than vertices. -/
def layers (g : Digraph) : List (List String) :=
  g.layersFrom (g.vertices.length + 1) g.sources g.inDegree

/-- The topological order, if every vertex joins a layer. -/
def topologicalOrder? (g : Digraph) : Option (List String) :=
  let order := g.layers.flatten
  if order.length == g.vertices.length then some order else none

def isAcyclic (g : Digraph) : Bool := g.topologicalOrder?.isSome

def sortIds (ids : List String) : List String := ids.mergeSort fun a b => decide (a ≤ b)

def sortedEdges (g : Digraph) : List Connection :=
  g.edges.mergeSort fun c d =>
    decide (c.source < d.source ∨ (c.source = d.source ∧ c.target ≤ d.target))

end Digraph

/-- What the graph view of a chart asks of a directed-graph library: a graph built vertex by
vertex and edge by edge, each edge tagged with a connection, and its vertices, neighbours, edge
tags, degrees, number of edges, acyclicity and topological order. -/
structure GraphLibrary (G : Type) where
  empty : G
  addNode : G → String → G
  addEdge : G → Connection → G
  contains : G → String → Bool
  hasEdge : G → String → String → Bool
  nodes : G → List String
  successors : G → String → List String
  predecessors : G → String → List String
  edgeData? : G → String → String → Option Connection
  inDegree : G → String → Nat
  outDegree : G → String → Nat
  numberOfEdges : G → Nat
  topologicalSort? : G → Option (List String)
  isAcyclic : G → Bool

namespace ChartGraph

variable {G : Type} (lib : GraphLibrary G)

def addNode (g : G) (n : Node) : G := if lib.contains g n.id then g else lib.addNode g n.id

def addEdge (g : G) (c : Connection) : G :=
  if lib.hasEdge g c.source c.target then g else lib.addEdge g c

/-- The graph of a chart: its nodes as vertices, then its connections as edges. -/
def ofChart (c : Chart) : G :=
  c.connections.foldl (addEdge lib) (c.nodes.foldl (addNode lib) lib.empty)

def nodeCount (g : G) : Nat := (lib.nodes g).length

def edgeCount (g : G) : Nat := lib.numberOfEdges g

def inDegree (g : G) (v : String) : Nat := if lib.contains g v then lib.inDegree g v else 0

def outDegree (g : G) (v : String) : Nat := if lib.contains g v then lib.outDegree g v else 0

def isDag (g : G) : Bool := lib.isAcyclic g

def topologicalOrder? (g : G) : Option (List String) := lib.topologicalSort? g

/-- Each vertex with its sorted successors, by id. -/
def adjacency (g : G) : List (String × List String) :=
  ((lib.nodes g).map fun v => (v, Digraph.sortIds (lib.successors g v))).mergeSort
    fun a b => decide (a.1 ≤ b.1)

end ChartGraph

namespace Digraph

def library : GraphLibrary Digraph where
  empty := empty
  addNode := addNode
  addEdge := addEdge
  contains := contains
  hasEdge := hasEdge
  nodes := vertices
  successors := successors
  predecessors := predecessors
  edgeData? := edgeData?
  inDegree := inDegree
  outDegree := outDegree
  numberOfEdges := numberOfEdges
  topologicalSort? := topologicalOrder?
  isAcyclic := isAcyclic

def ofChart (c : Chart) : Digraph := ChartGraph.ofChart library c

def adjacency (g : Digraph) : List (String × List String) := ChartGraph.adjacency library g

end Digraph

end Flowchart
