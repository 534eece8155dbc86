import Mathlib
import Flowchart.Proofs.Layers

/-!
# The graph library

The graph view of a chart leaves its graph to a directed-graph library and relies on what the
library documents: vertices and neighbours kept in order of addition, `addEdge` adding the
missing ends, an edge tagged with the last connection it was added with, degrees that count
edges, and a topological order that is the layered search (`GraphLibrary.Laws`). `Digraph`
behaves so (`Digraph.library_laws`), so the laws can all hold at once.

A library that behaves so builds, for every chart, a graph that shows the `Digraph` of the chart
(`GraphLibrary.Shows`): the same vertices and, for each vertex, the same successors, predecessors
and edge tags. Every answer of the view is read off those, so the view answers alike with any
such library, and the graph of a chart read from a text shows its registry and orders its nodes
along the connections whatever the library (`ChartGraph.neighbours_read`,
`ChartGraph.topologicalSort_read`).
-/

namespace Flowchart

variable {G : Type}

/-- The documented behaviour of a directed-graph library that the graph view relies on. -/
structure GraphLibrary.Laws (lib : GraphLibrary G) : Prop where
  /-- A new graph has no vertex, no edge and no tag. -/
  nodes_empty : lib.nodes lib.empty = []
  successors_empty : ∀ u, lib.successors lib.empty u = []
  predecessors_empty : ∀ v, lib.predecessors lib.empty v = []
  edgeData?_empty : ∀ u v, lib.edgeData? lib.empty u v = none
  /-- A graph contains the vertices it lists. -/
  contains_iff : ∀ g v, lib.contains g v = true ↔ v ∈ lib.nodes g
  /-- `addNode` lists a new vertex after the others and ignores a known one; it adds no edge. -/
  nodes_addNode : ∀ g v,
    lib.nodes (lib.addNode g v) = if v ∈ lib.nodes g then lib.nodes g else lib.nodes g ++ [v]
  successors_addNode : ∀ g v u, lib.successors (lib.addNode g v) u = lib.successors g u
  predecessors_addNode : ∀ g v w, lib.predecessors (lib.addNode g v) w = lib.predecessors g w
  edgeData?_addNode : ∀ g v u w, lib.edgeData? (lib.addNode g v) u w = lib.edgeData? g u w
  /-- There is an edge from `u` to `v` when `v` is a successor of `u`. -/
  hasEdge_iff : ∀ g u v, lib.hasEdge g u v = true ↔ v ∈ lib.successors g u
  /-- `addEdge` adds its ends as `addNode` would, the source first. -/
  nodes_addEdge : ∀ g (c : Connection),
    lib.nodes (lib.addEdge g c) = lib.nodes (lib.addNode (lib.addNode g c.source) c.target)
  /-- A new edge puts its target after the successors of its source, and its source after the
  predecessors of its target; an edge that is there keeps its place. -/
  successors_addEdge : ∀ g (c : Connection) u,
    lib.successors (lib.addEdge g c) u =
      if u = c.source ∧ c.target ∉ lib.successors g u then lib.successors g u ++ [c.target]
      else lib.successors g u
  predecessors_addEdge : ∀ g (c : Connection) w,
    lib.predecessors (lib.addEdge g c) w =
      if w = c.target ∧ c.source ∉ lib.predecessors g w then lib.predecessors g w ++ [c.source]
      else lib.predecessors g w
  /-- The edge takes the connection it is added with as its tag. -/
  edgeData?_addEdge : ∀ g (c : Connection) u w,
    lib.edgeData? (lib.addEdge g c) u w =
      if u = c.source ∧ w = c.target then some c else lib.edgeData? g u w
  /-- Degrees count predecessors and successors, and the edges are counted by their sources. -/
  inDegree_eq : ∀ g v, lib.inDegree g v = (lib.predecessors g v).length
  outDegree_eq : ∀ g u, lib.outDegree g u = (lib.successors g u).length
  numberOfEdges_eq : ∀ g, lib.numberOfEdges g = ((lib.nodes g).map (lib.outDegree g)).sum
  /-- The topological sort is the layered search of `Digraph.topologicalOrder?`, run on the
  vertices, successors and in-degrees of the graph. -/
  topologicalSort?_eq : ∀ g (d : Digraph), d.vertices = lib.nodes g →
    (∀ u, d.successors u = lib.successors g u) → (∀ v, d.inDegree v = lib.inDegree g v) →
    lib.topologicalSort? g = d.topologicalOrder?
  /-- A graph is acyclic when it has a topological order. -/
  isAcyclic_eq : ∀ g, lib.isAcyclic g = (lib.topologicalSort? g).isSome

namespace Digraph

@[simp] theorem edges_addNode (g : Digraph) (v : String) : (g.addNode v).edges = g.edges := by
  unfold addNode
  split <;> rfl

theorem vertices_addNode (g : Digraph) (v : String) :
    (g.addNode v).vertices = if v ∈ g.vertices then g.vertices else g.vertices ++ [v] := by
  unfold addNode contains
  by_cases hv : v ∈ g.vertices <;> simp [hv]

theorem ends_retag (c e : Connection) :
    (if sameEnds e c then c else e).source = e.source ∧
      (if sameEnds e c then c else e).target = e.target := by
  by_cases h : sameEnds e c = true
  · simp only [sameEnds, Bool.and_eq_true, beq_iff_eq] at h
    simp [sameEnds, h.1, h.2]
  · simp [h]

theorem addEdge_eq (g : Digraph) (c : Connection) :
    g.addEdge c =
      if g.hasEdge c.source c.target then
        ⟨((g.addNode c.source).addNode c.target).vertices,
          g.edges.map fun e => if sameEnds e c then c else e⟩
      else ⟨((g.addNode c.source).addNode c.target).vertices, g.edges ++ [c]⟩ := by
  have hhas : ((g.addNode c.source).addNode c.target).hasEdge = g.hasEdge := by
    funext u v
    simp only [hasEdge, edges_addNode]
  simp only [addEdge, hhas, edges_addNode]

theorem hasEdge_iff_mem_successors (g : Digraph) (u v : String) :
    g.hasEdge u v = true ↔ v ∈ g.successors u := by
  simp only [hasEdge, successors, List.any_eq_true, List.mem_map, List.mem_filter,
    Bool.and_eq_true, beq_iff_eq]
  constructor
  · rintro ⟨e, he, rfl, rfl⟩
    exact ⟨e, ⟨he, rfl⟩, rfl⟩
  · rintro ⟨e, ⟨he, rfl⟩, rfl⟩
    exact ⟨e, he, rfl, rfl⟩

theorem hasEdge_iff_mem_predecessors (g : Digraph) (u v : String) :
    g.hasEdge u v = true ↔ u ∈ g.predecessors v := by
  simp only [hasEdge, predecessors, List.any_eq_true, List.mem_map, List.mem_filter,
    Bool.and_eq_true, beq_iff_eq]
  constructor
  · rintro ⟨e, he, rfl, rfl⟩
    exact ⟨e, ⟨he, rfl⟩, rfl⟩
  · rintro ⟨e, ⟨he, rfl⟩, rfl⟩
    exact ⟨e, he, rfl, rfl⟩

section Retag

variable (vs : List String) (es : List Connection) (c : Connection)

/-- Re-tagging keeps the ends of every edge, so it keeps the far ends of the edges whose near end
is `x`, whichever end is near. -/
theorem map_filter_retag (near far : Connection → String)
    (hends : ∀ e, near (if sameEnds e c then c else e) = near e ∧
      far (if sameEnds e c then c else e) = far e) (x : String) :
    ((es.map fun e => if sameEnds e c then c else e).filter (near · == x)).map far =
      (es.filter (near · == x)).map far := by
  simp only [List.filter_map, List.map_map]
  congr 1
  · funext e
    simp [(hends e).2]
  · congr 1
    funext e
    simp [(hends e).1]

theorem map_filter_append (near far : Connection → String) (x : String) :
    ((es ++ [c]).filter (near · == x)).map far =
      (es.filter (near · == x)).map far ++ if near c = x then [far c] else [] := by
  by_cases h : near c = x <;> simp [h]

theorem edgeData?_retag (u w : String) (hc : (⟨vs, es⟩ : Digraph).hasEdge c.source c.target) :
    (⟨vs, es.map fun e => if sameEnds e c then c else e⟩ : Digraph).edgeData? u w =
      if u = c.source ∧ w = c.target then some c else (⟨vs, es⟩ : Digraph).edgeData? u w := by
  simp only [edgeData?, List.find?_map]
  have hkeep : ((fun e : Connection => e.source == u && e.target == w) ∘
      fun e => if sameEnds e c then c else e) = fun e => e.source == u && e.target == w := by
    funext e
    simp [(ends_retag c e).1, (ends_retag c e).2]
  rw [hkeep]
  cases hfind : es.find? (fun e => e.source == u && e.target == w) with
  | none =>
      split
      · obtain ⟨rfl, rfl⟩ := ‹u = c.source ∧ w = c.target›
        simp only [hasEdge, List.find?_eq_none] at hc hfind
        obtain ⟨e, he, hends⟩ := List.any_eq_true.mp hc
        exact absurd hends (by simpa using hfind e he)
      · rfl
  | some e =>
      have hends := List.find?_some hfind
      simp only [Bool.and_eq_true, beq_iff_eq] at hends
      simp only [Option.map_some, sameEnds, hends.1, hends.2]
      by_cases hcw : u = c.source ∧ w = c.target
      · simp [hcw]
      · rw [if_neg hcw, if_neg (by simpa using hcw)]

theorem edgeData?_append (u w : String) :
    (⟨vs, es ++ [c]⟩ : Digraph).edgeData? u w =
      ((⟨vs, es⟩ : Digraph).edgeData? u w).or
        (if c.source = u ∧ c.target = w then some c else none) := by
  by_cases h : c.source = u ∧ c.target = w <;> simp [edgeData?, List.find?_append, h]

end Retag

theorem find?_ends_firstOfEachPair (cs : List Connection) (u w : String) :
    (firstOfEachPair cs).find? (fun e => e.source == u && e.target == w) =
      cs.find? fun e => e.source == u && e.target == w := by
  induction cs using List.reverseRecOn with
  | nil => rfl
  | append_singleton cs c ih =>
      rw [firstOfEachPair_append, List.find?_append]
      split
      · rename_i hknown
        rw [ih]
        cases hfind : cs.find? (fun e => e.source == u && e.target == w) with
        | some e => rfl
        | none =>
            obtain ⟨d, hd, hsame⟩ := List.any_eq_true.mp
              ((any_sameEnds_firstOfEachPair cs c).symm.trans hknown)
            have hd' := List.find?_eq_none.mp hfind d hd
            simp only [sameEnds, Bool.and_eq_true, beq_iff_eq] at hsame
            simp only [Bool.and_eq_true, beq_iff_eq, not_and] at hd'
            simp only [List.find?_singleton, Bool.and_eq_true, beq_iff_eq, hsame.1, hsame.2]
            rw [if_neg fun h => hd' h.1 h.2]
            rfl
      · rw [List.find?_append, ih]

theorem edgeData?_ofChart {layout : Layout} {c : Chart} (hwf : c.registry.WellFormed layout)
    (u w : String) :
    (ofChart c).edgeData? u w =
      c.registry.connections.find? fun e => e.source == u && e.target == w := by
  rw [ofChart_eq hwf]
  exact find?_ends_firstOfEachPair _ u w

theorem edgeData?_eq_none_iff (g : Digraph) (u w : String) :
    g.edgeData? u w = none ↔ g.hasEdge u w = false := by
  simp [edgeData?, hasEdge]

/-- Adding an edge appends its far end to the neighbours of its near end, unless the two are
joined already; whichever end is near. -/
theorem map_filter_addEdge (g : Digraph) (c : Connection) (near far : Connection → String)
    (hends : ∀ e, near (if sameEnds e c then c else e) = near e ∧
      far (if sameEnds e c then c else e) = far e)
    (hjoined : g.hasEdge c.source c.target = true ↔
      far c ∈ (g.edges.filter (near · == near c)).map far) (x : String) :
    ((g.addEdge c).edges.filter (near · == x)).map far =
      if x = near c ∧ far c ∉ (g.edges.filter (near · == x)).map far then
        (g.edges.filter (near · == x)).map far ++ [far c]
      else (g.edges.filter (near · == x)).map far := by
  rw [addEdge_eq]
  split
  · rename_i hhas
    rw [map_filter_retag _ _ _ _ hends, if_neg]
    rintro ⟨rfl, hnot⟩
    exact hnot (hjoined.mp hhas)
  · rename_i hhas
    rw [map_filter_append]
    by_cases hx : x = near c
    · subst hx
      rw [if_pos rfl, if_pos ⟨rfl, fun h => hhas (hjoined.mpr h)⟩]
    · rw [if_neg (Ne.symm hx), if_neg fun h => hx h.1, List.append_nil]

theorem successors_addEdge (g : Digraph) (c : Connection) (u : String) :
    (g.addEdge c).successors u =
      if u = c.source ∧ c.target ∉ g.successors u then g.successors u ++ [c.target]
      else g.successors u :=
  map_filter_addEdge g c Connection.source Connection.target (ends_retag c)
    (hasEdge_iff_mem_successors g _ _) u

theorem predecessors_addEdge (g : Digraph) (c : Connection) (w : String) :
    (g.addEdge c).predecessors w =
      if w = c.target ∧ c.source ∉ g.predecessors w then g.predecessors w ++ [c.source]
      else g.predecessors w :=
  map_filter_addEdge g c Connection.target Connection.source (fun e => (ends_retag c e).symm)
    (hasEdge_iff_mem_predecessors g _ _) w

theorem edgeData?_addEdge (g : Digraph) (c : Connection) (u w : String) :
    (g.addEdge c).edgeData? u w =
      if u = c.source ∧ w = c.target then some c else g.edgeData? u w := by
  rw [addEdge_eq]
  split
  · rename_i hhas
    exact edgeData?_retag _ _ _ u w hhas
  · rename_i hhas
    rw [edgeData?_append]
    by_cases hcw : u = c.source ∧ w = c.target
    · obtain ⟨rfl, rfl⟩ := hcw
      have hnone : g.edgeData? c.source c.target = none :=
        (edgeData?_eq_none_iff g _ _).mpr (by simpa using hhas)
      rw [if_pos ⟨rfl, rfl⟩, if_pos ⟨rfl, rfl⟩]
      exact congrArg (·.or (some c)) hnone
    · rw [if_neg fun h => hcw ⟨h.1.symm, h.2.symm⟩, if_neg hcw, Option.or_none]
      rfl

theorem layersFrom_congr {d g : Digraph} (hs : d.successors = g.successors) :
    ∀ fuel layer counts, d.layersFrom fuel layer counts = g.layersFrom fuel layer counts
  | 0, _, _ => rfl
  | _ + 1, [], _ => rfl
  | fuel + 1, v :: layer, counts => by
      have hnext : d.nextLayer (v :: layer) counts = g.nextLayer (v :: layer) counts := by
        simp only [nextLayer, hs]
      simp only [layersFrom, hnext, layersFrom_congr hs fuel]

theorem topologicalOrder?_congr {d g : Digraph} (hv : d.vertices = g.vertices)
    (hs : d.successors = g.successors) (hi : d.inDegree = g.inDegree) :
    d.topologicalOrder? = g.topologicalOrder? := by
  unfold topologicalOrder? layers sources
  rw [hv, hi, layersFrom_congr hs]

theorem library_laws : library.Laws where
  nodes_empty := rfl
  successors_empty _ := rfl
  predecessors_empty _ := rfl
  edgeData?_empty _ _ := rfl
  contains_iff g v := by simp [library, contains]
  nodes_addNode := vertices_addNode
  successors_addNode g v u := by simp [library, successors]
  predecessors_addNode g v w := by simp [library, predecessors]
  edgeData?_addNode g v u w := by simp [library, edgeData?]
  hasEdge_iff := hasEdge_iff_mem_successors
  nodes_addEdge g c := by
    show (g.addEdge c).vertices = ((g.addNode c.source).addNode c.target).vertices
    rw [addEdge_eq]
    split <;> rfl
  successors_addEdge := successors_addEdge
  predecessors_addEdge := predecessors_addEdge
  edgeData?_addEdge := edgeData?_addEdge
  inDegree_eq g v := by simp [library, inDegree, predecessors]
  outDegree_eq g u := by simp [library, outDegree, successors]
  numberOfEdges_eq g := rfl
  topologicalSort?_eq g d hv hs hi := (topologicalOrder?_congr hv (funext hs) (funext hi)).symm
  isAcyclic_eq _ := rfl

end Digraph

namespace GraphLibrary

/-- The graph `g` of the library `lib` answers as the `Digraph` `d`: the same vertices, and for
every vertex the same successors, predecessors and edge tags. -/
structure Shows (lib : GraphLibrary G) (g : G) (d : Digraph) : Prop where
  nodes : lib.nodes g = d.vertices
  successors : ∀ u, lib.successors g u = d.successors u
  predecessors : ∀ w, lib.predecessors g w = d.predecessors w
  edgeData? : ∀ u w, lib.edgeData? g u w = d.edgeData? u w

variable {lib : GraphLibrary G} {g : G} {d : Digraph}

theorem shows_empty (hlib : lib.Laws) : lib.Shows lib.empty Digraph.empty :=
  ⟨hlib.nodes_empty, hlib.successors_empty, hlib.predecessors_empty, hlib.edgeData?_empty⟩

theorem Shows.addNode (hlib : lib.Laws) (h : lib.Shows g d) (v : String) :
    lib.Shows (lib.addNode g v) (d.addNode v) where
  nodes := by rw [hlib.nodes_addNode, h.nodes, Digraph.vertices_addNode]
  successors u := by
    rw [hlib.successors_addNode, h.successors]
    exact (Digraph.library_laws.successors_addNode d v u).symm
  predecessors w := by
    rw [hlib.predecessors_addNode, h.predecessors]
    exact (Digraph.library_laws.predecessors_addNode d v w).symm
  edgeData? u w := by
    rw [hlib.edgeData?_addNode, h.edgeData?]
    exact (Digraph.library_laws.edgeData?_addNode d v u w).symm

theorem Shows.addEdge (hlib : lib.Laws) (h : lib.Shows g d) (c : Connection) :
    lib.Shows (lib.addEdge g c) (d.addEdge c) where
  nodes := by
    rw [hlib.nodes_addEdge, ((h.addNode hlib c.source).addNode hlib c.target).nodes]
    exact (Digraph.library_laws.nodes_addEdge d c).symm
  successors u := by
    rw [hlib.successors_addEdge, h.successors, Digraph.successors_addEdge]
  predecessors w := by
    rw [hlib.predecessors_addEdge, h.predecessors, Digraph.predecessors_addEdge]
  edgeData? u w := by
    rw [hlib.edgeData?_addEdge, h.edgeData?, Digraph.edgeData?_addEdge]

theorem Shows.contains (hlib : lib.Laws) (h : lib.Shows g d) (v : String) : lib.contains g v = d.contains v := by
  rw [Bool.eq_iff_iff, hlib.contains_iff, h.nodes]
  exact (Digraph.library_laws.contains_iff d v).symm

theorem Shows.hasEdge (hlib : lib.Laws) (h : lib.Shows g d) (u v : String) : lib.hasEdge g u v = d.hasEdge u v := by
  rw [Bool.eq_iff_iff, hlib.hasEdge_iff, h.successors, Digraph.hasEdge_iff_mem_successors]

theorem Shows.inDegree (hlib : lib.Laws) (h : lib.Shows g d) (v : String) : lib.inDegree g v = d.inDegree v := by
  rw [hlib.inDegree_eq, h.predecessors]
  exact (Digraph.library_laws.inDegree_eq d v).symm

theorem Shows.outDegree (hlib : lib.Laws) (h : lib.Shows g d) (u : String) : lib.outDegree g u = d.outDegree u := by
  rw [hlib.outDegree_eq, h.successors]
  exact (Digraph.library_laws.outDegree_eq d u).symm

theorem Shows.numberOfEdges (hlib : lib.Laws) (h : lib.Shows g d) : lib.numberOfEdges g = d.numberOfEdges := by
  rw [hlib.numberOfEdges_eq, h.nodes, List.map_congr_left fun u _ => h.outDegree hlib u]
  exact (Digraph.library_laws.numberOfEdges_eq d).symm

theorem Shows.topologicalSort? (hlib : lib.Laws) (h : lib.Shows g d) :
    lib.topologicalSort? g = d.topologicalOrder? :=
  hlib.topologicalSort?_eq g d h.nodes.symm (fun u => (h.successors u).symm)
    fun v => (h.inDegree hlib v).symm

theorem Shows.chartAddNode (hlib : lib.Laws) (h : lib.Shows g d) (n : Node) :
    lib.Shows (ChartGraph.addNode lib g n) (ChartGraph.addNode Digraph.library d n) := by
  have hc : lib.contains g n.id = Digraph.library.contains d n.id := h.contains hlib n.id
  unfold ChartGraph.addNode
  rw [hc]
  split
  · exact h
  · exact h.addNode hlib n.id

theorem Shows.chartAddEdge (hlib : lib.Laws) (h : lib.Shows g d) (c : Connection) :
    lib.Shows (ChartGraph.addEdge lib g c) (ChartGraph.addEdge Digraph.library d c) := by
  have hc : lib.hasEdge g c.source c.target = Digraph.library.hasEdge d c.source c.target :=
    h.hasEdge hlib c.source c.target
  unfold ChartGraph.addEdge
  rw [hc]
  split
  · exact h
  · exact h.addEdge hlib c

theorem Shows.foldl {α : Type} {f : G → α → G} {f' : Digraph → α → Digraph}
    (hstep : ∀ g d x, lib.Shows g d → lib.Shows (f g x) (f' d x)) (xs : List α)
    (h : lib.Shows g d) : lib.Shows (xs.foldl f g) (xs.foldl f' d) := by
  induction xs generalizing g d with
  | nil => exact h
  | cons x xs ih => exact ih (hstep g d x h)

end GraphLibrary

namespace ChartGraph

open GraphLibrary

variable {lib : GraphLibrary G} {g : G} {d : Digraph}

/-- A library that behaves as documented builds, for every chart, a graph that shows the
`Digraph` of the chart. -/
theorem shows_ofChart (hlib : lib.Laws) (c : Chart) : lib.Shows (ofChart lib c) (Digraph.ofChart c) :=
  Shows.foldl (fun _ _ e h => h.chartAddEdge hlib e) c.connections
    (Shows.foldl (fun _ _ n h => h.chartAddNode hlib n) c.nodes (shows_empty hlib))

/-- Every answer of the view on a graph is the answer on the `Digraph` the graph shows. -/
theorem Shows.answers (hlib : lib.Laws) (h : lib.Shows g d) :
    nodeCount lib g = nodeCount Digraph.library d ∧
      edgeCount lib g = edgeCount Digraph.library d ∧
      (∀ v, inDegree lib g v = inDegree Digraph.library d v) ∧
      (∀ u, outDegree lib g u = outDegree Digraph.library d u) ∧
      isDag lib g = isDag Digraph.library d ∧
      topologicalOrder? lib g = topologicalOrder? Digraph.library d ∧
      adjacency lib g = adjacency Digraph.library d := by
  have hsort : topologicalOrder? lib g = topologicalOrder? Digraph.library d :=
    h.topologicalSort? hlib
  refine ⟨congrArg List.length h.nodes, h.numberOfEdges hlib, fun v => ?_, fun u => ?_, ?_, hsort,
    ?_⟩
  · simp only [inDegree, h.contains hlib, h.inDegree hlib]
    rfl
  · simp only [outDegree, h.contains hlib, h.outDegree hlib]
    rfl
  · rw [isDag, hlib.isAcyclic_eq, ← topologicalOrder?, hsort]
    rfl
  · simp only [adjacency, h.nodes, h.successors]
    rfl


theorem inDegree_of_mem (hlib : lib.Laws) {v : String} (hv : v ∈ lib.nodes g) :
    inDegree lib g v = (lib.predecessors g v).length := by
  rw [inDegree, if_pos ((hlib.contains_iff g v).mpr hv), hlib.inDegree_eq]

theorem outDegree_of_mem (hlib : lib.Laws) {u : String} (hu : u ∈ lib.nodes g) :
    outDegree lib g u = (lib.successors g u).length := by
  rw [outDegree, if_pos ((hlib.contains_iff g u).mpr hu), hlib.outDegree_eq]

/-- Built with any library that behaves as documented, the graph of a chart read from a text
has the chart's node ids as vertices; each node's outgoing and incoming lists as its successors
and predecessors, and their lengths as its degrees; the first connection between two nodes as the
tag of their edge; the sum of the outgoing lengths as its number of edges; and the nodes' sorted
outgoing lists, sorted by id, as its adjacency list. -/
theorem neighbours_read (hlib : lib.Laws) (layout : Layout) (src : String) :
    lib.nodes (ofChart lib (Chart.read layout src)) =
        (Chart.read layout src).registry.nodes.map (·.id) ∧
      (∀ v ∈ (Chart.read layout src).registry.nodes,
        lib.successors (ofChart lib (Chart.read layout src)) v.id = v.outgoing ∧
        lib.predecessors (ofChart lib (Chart.read layout src)) v.id = v.incoming ∧
        outDegree lib (ofChart lib (Chart.read layout src)) v.id = v.outgoing.length ∧
        inDegree lib (ofChart lib (Chart.read layout src)) v.id = v.incoming.length) ∧
      (∀ u w, lib.edgeData? (ofChart lib (Chart.read layout src)) u w =
        (Chart.read layout src).registry.connections.find? fun c =>
          c.source == u && c.target == w) ∧
      edgeCount lib (ofChart lib (Chart.read layout src)) =
        ((Chart.read layout src).registry.nodes.map (·.outgoing.length)).sum ∧
      adjacency lib (ofChart lib (Chart.read layout src)) =
        ((Chart.read layout src).registry.nodes.map fun v =>
          (v.id, Digraph.sortIds v.outgoing)).mergeSort fun a b => decide (a.1 ≤ b.1) := by
  have hwf := Chart.registry_wellFormed layout src
  have hshows := shows_ofChart hlib (Chart.read layout src)
  have hpresents := Digraph.presents_of_wellFormed hwf
  have hnodes := hshows.nodes.trans hpresents.vertices
  have hsucc : ∀ v ∈ (Chart.read layout src).registry.nodes,
      lib.successors (ofChart lib (Chart.read layout src)) v.id = v.outgoing := fun v hv =>
    (hshows.successors v.id).trans (hpresents.successors v hv)
  have hpred : ∀ v ∈ (Chart.read layout src).registry.nodes,
      lib.predecessors (ofChart lib (Chart.read layout src)) v.id = v.incoming := fun v hv =>
    (hshows.predecessors v.id).trans (hpresents.predecessors v hv)
  have hmem : ∀ v ∈ (Chart.read layout src).registry.nodes,
      v.id ∈ lib.nodes (ofChart lib (Chart.read layout src)) := fun v hv => by
    rw [hnodes]
    exact List.mem_map_of_mem hv
  refine ⟨hnodes, fun v hv => ⟨hsucc v hv, hpred v hv, ?_, ?_⟩, fun u w => ?_, ?_, ?_⟩
  · rw [outDegree_of_mem hlib (hmem v hv), hsucc v hv]
  · rw [inDegree_of_mem hlib (hmem v hv), hpred v hv]
  · rw [hshows.edgeData?, Digraph.edgeData?_ofChart hwf]
  · rw [edgeCount, hlib.numberOfEdges_eq, hnodes, List.map_map]
    congr 1
    apply List.map_congr_left
    intro v hv
    rw [Function.comp_apply, hlib.outDegree_eq, hsucc v hv]
  · rw [adjacency, hnodes, List.map_map]
    congr 1
    apply List.map_congr_left
    intro v hv
    rw [Function.comp_apply, hsucc v hv]

/-- Built with any library that behaves as documented, the graph of a chart read from a text has
no topological order exactly when the connections contain a cycle, a loop included, and is
acyclic exactly when it has one; its order lists every node once, as the layers of the search
one after the other, with every connection leading from a node listed earlier to one listed
later. -/
theorem topologicalSort_read (hlib : lib.Laws) (layout : Layout) (src : String) :
    (topologicalOrder? lib (ofChart lib (Chart.read layout src)) = none ↔
      Connection.HasCycle (Chart.read layout src).connections) ∧
    (isDag lib (ofChart lib (Chart.read layout src)) = true ↔
      topologicalOrder? lib (ofChart lib (Chart.read layout src)) ≠ none) ∧
    ∀ order, topologicalOrder? lib (ofChart lib (Chart.read layout src)) = some order →
      (Digraph.ofChart (Chart.read layout src)).LayeredBy (Chart.read layout src).connections
        order := by
  have hsort : topologicalOrder? lib (ofChart lib (Chart.read layout src)) =
      (Digraph.ofChart (Chart.read layout src)).topologicalOrder? :=
    (shows_ofChart hlib _).topologicalSort? hlib
  refine ⟨?_, ?_, fun order h => ?_⟩
  · rw [hsort]
    exact Digraph.topologicalOrder?_read_eq_none_iff layout src
  · rw [isDag, hlib.isAcyclic_eq]
    exact Option.isSome_iff_ne_none
  · rw [hsort] at h
    exact Digraph.layeredBy_read layout src h

end ChartGraph

end Flowchart
