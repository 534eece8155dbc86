import Mathlib
import Flowchart.Digraph
import Flowchart.Proofs.Reading

/-!
# The graph of a chart shows its registry

The digraph of a chart is built from the nodes and connections of its registry a second time,
with a deduplication of its own: an edge is kept for the first connection of each ordered pair.
The registry deduplicated the same pairs as they came, in the neighbour lists of the nodes. The
two agree because every connection joins registered nodes and both work in connection order, so
the successors of a node in the graph are its outgoing list and its predecessors its incoming
list (`Digraph.Presents`, `Digraph.presents_read`).
-/

namespace Flowchart

/-- The ordered pair of nodes a connection joins. -/
def Connection.ends (c : Connection) : String × String := (c.source, c.target)

namespace Digraph

theorem sameEnds_iff {c d : Connection} : sameEnds c d = true ↔ c.ends = d.ends := by
  simp [sameEnds, Connection.ends]

/-! ## The first connection of each pair -/

theorem firstOfEachPair_append (cs : List Connection) (c : Connection) :
    firstOfEachPair (cs ++ [c]) =
      if (firstOfEachPair cs).any (sameEnds c) then firstOfEachPair cs
      else firstOfEachPair cs ++ [c] := by
  rw [firstOfEachPair, firstOfEachPair, List.foldl_append]
  rfl

theorem any_sameEnds_iff (cs : List Connection) (c : Connection) :
    cs.any (sameEnds c) = true ↔ c.ends ∈ cs.map Connection.ends := by
  simp only [List.any_eq_true, sameEnds_iff, List.mem_map]
  exact ⟨fun ⟨d, hd, he⟩ => ⟨d, hd, he.symm⟩, fun ⟨d, hd, he⟩ => ⟨d, hd, he.symm⟩⟩

theorem map_ends_firstOfEachPair (cs : List Connection) :
    (firstOfEachPair cs).map Connection.ends = (cs.map Connection.ends).eraseDups := by
  induction cs using List.reverseRecOn with
  | nil => rfl
  | append_singleton cs c ih =>
      rw [firstOfEachPair_append, List.map_append, List.map_singleton,
        eraseDups_append_singleton]
      by_cases hc : c.ends ∈ cs.map Connection.ends
      · have hany : (firstOfEachPair cs).any (sameEnds c) = true := by
          rw [any_sameEnds_iff, ih, List.mem_eraseDups]
          exact hc
        rw [if_pos hany, if_pos hc, ih]
      · have hany : (firstOfEachPair cs).any (sameEnds c) = false := by
          rw [← Bool.not_eq_true, any_sameEnds_iff, ih, List.mem_eraseDups]
          exact hc
        rw [if_neg (by simp [hany]), if_neg hc, List.map_append, ih]
        rfl

theorem any_sameEnds_firstOfEachPair (cs : List Connection) (c : Connection) :
    (firstOfEachPair cs).any (sameEnds c) = cs.any (sameEnds c) := by
  rw [Bool.eq_iff_iff, any_sameEnds_iff, any_sameEnds_iff, map_ends_firstOfEachPair,
    List.mem_eraseDups]

theorem find?_firstOfEachPair (cs : List Connection) :
    ∀ e ∈ firstOfEachPair cs, cs.find? (sameEnds e) = some e := by
  induction cs using List.reverseRecOn with
  | nil => intro e he; cases he
  | append_singleton cs c ih =>
      have hold : ∀ e ∈ firstOfEachPair cs, (cs ++ [c]).find? (sameEnds e) = some e := by
        intro e he
        rw [List.find?_append, ih e he]
        rfl
      rw [firstOfEachPair_append]
      split
      · exact hold
      · rename_i hnew
        intro e he
        rcases List.mem_append.mp he with he | he
        · exact hold e he
        · obtain rfl := List.mem_singleton.mp he
          have hnone : cs.find? (sameEnds e) = none := by
            rw [List.find?_eq_none]
            intro d hd hsame
            apply hnew
            rw [any_sameEnds_firstOfEachPair, List.any_eq_true]
            exact ⟨d, hd, hsame⟩
          rw [List.find?_append, hnone, Option.none_or, List.find?_singleton,
            if_pos (sameEnds_iff.mpr rfl)]

theorem distinctEnds_firstOfEachPair (key other : Connection → String)
    (hends : ∀ c d, sameEnds c d = true ↔ key c = key d ∧ other c = other d)
    (cs : List Connection) (x : String) :
    ((firstOfEachPair cs).filter (key · == x)).map other =
      ((cs.filter (key · == x)).map other).eraseDups := by
  induction cs using List.reverseRecOn with
  | nil => rfl
  | append_singleton cs c ih =>
      rw [Registry.distinctEnds_append, firstOfEachPair_append, any_sameEnds_firstOfEachPair]
      have hknown : x = key c →
          (other c ∈ ((cs.filter (key · == x)).map other).eraseDups ↔
            cs.any (sameEnds c) = true) := by
        rintro rfl
        simp only [List.mem_eraseDups, List.mem_map, List.mem_filter, beq_iff_eq,
          List.any_eq_true, hends]
        constructor
        · rintro ⟨d, ⟨hd, hkey⟩, hother⟩
          exact ⟨d, hd, hkey.symm, hother.symm⟩
        · rintro ⟨d, hd, hkey, hother⟩
          exact ⟨d, ⟨hd, hkey.symm⟩, hother.symm⟩
      by_cases hany : cs.any (sameEnds c) = true
      · rw [if_pos hany, ih, if_neg]
        rintro ⟨hx, hnot⟩
        exact hnot ((hknown hx).mpr hany)
      · rw [if_neg hany, List.filter_append, List.map_append, ih]
        by_cases hx : x = key c
        · rw [if_pos ⟨hx, fun h => hany ((hknown hx).mp h)⟩]
          simp [hx]
        · rw [if_neg fun h => hx h.1]
          simp [Ne.symm hx]

theorem successors_firstOfEachPair (cs : List Connection) (x : String) :
    ((firstOfEachPair cs).filter (·.source == x)).map (·.target) = Registry.heads cs x :=
  distinctEnds_firstOfEachPair Connection.source Connection.target
    (fun c d => by simp [sameEnds]) cs x

theorem predecessors_firstOfEachPair (cs : List Connection) (x : String) :
    ((firstOfEachPair cs).filter (·.target == x)).map (·.source) = Registry.tails cs x :=
  distinctEnds_firstOfEachPair Connection.target Connection.source
    (fun c d => by simp [sameEnds, and_comm]) cs x

/-! ## Counting edges by their tails -/

theorem length_eq_sum_filter_source {vs : List String} (hvs : vs.Nodup) (es : List Connection)
    (hes : ∀ e ∈ es, e.source ∈ vs) :
    es.length = (vs.map fun v => (es.filter (·.source == v)).length).sum := by
  induction vs generalizing es with
  | nil =>
      cases es with
      | nil => rfl
      | cons e es => exact absurd (hes e List.mem_cons_self) List.not_mem_nil
  | cons v vs ih =>
      have hv : v ∉ vs := (List.nodup_cons.mp hvs).1
      have hrest : ∀ e ∈ es.filter (!·.source == v), e.source ∈ vs := by
        intro e he
        obtain ⟨he, hne⟩ := List.mem_filter.mp he
        simp only [Bool.not_eq_true', beq_eq_false_iff_ne] at hne
        exact (List.mem_cons.mp (hes e he)).resolve_left hne
      have hsame : ∀ w ∈ vs, es.filter (·.source == w) =
          (es.filter (!·.source == v)).filter (·.source == w) := by
        intro w hw
        rw [List.filter_filter]
        apply List.filter_congr
        intro e _
        by_cases hew : e.source = w
        · have hev : e.source ≠ v := fun h => hv (h ▸ hew ▸ hw)
          subst hew
          simp [hev]
        · simp [hew]
      rw [List.map_cons, List.sum_cons, List.map_congr_left (fun w hw => by rw [hsame w hw]),
        ← ih (List.nodup_cons.mp hvs).2 _ hrest]
      exact List.length_eq_length_filter_add _

end Digraph

/-- What the graph `g` shows of the registry `r`: the node ids as vertices, in order, and no other
vertex; one edge for each distinct pair of connected nodes, in order of first appearance, tagged
with the first connection of the pair; each node's outgoing and incoming lists as its successors
and predecessors, and their lengths as its degrees; as many edges as the outgoing lists have ids
together; and the adjacency list of the nodes' sorted outgoing lists, sorted by id. -/
structure Digraph.Presents (g : Digraph) (r : Registry) : Prop where
  vertices : g.vertices = r.nodes.map (·.id)
  edge_ends : ∀ e ∈ g.edges, e.source ∈ g.vertices ∧ e.target ∈ g.vertices
  pairs : g.edges.map Connection.ends = (r.connections.map Connection.ends).eraseDups
  first : ∀ e ∈ g.edges, r.connections.find? (Digraph.sameEnds e) = some e
  successors : ∀ v ∈ r.nodes, g.successors v.id = v.outgoing
  predecessors : ∀ v ∈ r.nodes, g.predecessors v.id = v.incoming
  outDegree : ∀ v ∈ r.nodes, g.outDegree v.id = v.outgoing.length
  inDegree : ∀ v ∈ r.nodes, g.inDegree v.id = v.incoming.length
  edgeCount : g.edges.length = (r.nodes.map (·.outgoing.length)).sum
  adjacency : g.adjacency =
    (r.nodes.map fun v => (v.id, Digraph.sortIds v.outgoing)).mergeSort
      fun a b => decide (a.1 ≤ b.1)

namespace Digraph

variable {layout : Layout}

/-! ## Building the graph of a chart -/

theorem hasEdge_eq_any_sameEnds (g : Digraph) (c : Connection) :
    g.hasEdge c.source c.target = g.edges.any (sameEnds c) := by
  unfold hasEdge sameEnds
  congr 1
  funext e
  rw [Bool.beq_comm (a := e.source), Bool.beq_comm (a := e.target)]

theorem foldl_addNode_library {g : Digraph} {ns : List Node}
    (hnd : (g.vertices ++ ns.map (·.id)).Nodup) :
    ns.foldl (ChartGraph.addNode library) g = { g with vertices := g.vertices ++ ns.map (·.id) } := by
  induction ns generalizing g with
  | nil => simp
  | cons n ns ih =>
      have hn : n.id ∉ g.vertices := by
        rw [List.map_cons, List.nodup_append] at hnd
        exact fun h => hnd.2.2 n.id h n.id List.mem_cons_self rfl
      have hstep : ChartGraph.addNode library g n = { g with vertices := g.vertices ++ [n.id] } := by
        simp [ChartGraph.addNode, library, contains, Digraph.addNode, hn]
      rw [List.foldl_cons, hstep, ih (by simpa using hnd)]
      simp

theorem foldl_addEdge_library {vs : List String} {kept cs : List Connection}
    (hends : ∀ c ∈ cs, c.source ∈ vs ∧ c.target ∈ vs) :
    cs.foldl (ChartGraph.addEdge library) ⟨vs, kept⟩ =
      ⟨vs, cs.foldl (fun kept c => if kept.any (sameEnds c) then kept else kept ++ [c]) kept⟩ := by
  induction cs generalizing kept with
  | nil => rfl
  | cons c cs ih =>
      obtain ⟨hs, ht⟩ := hends c List.mem_cons_self
      have hstep : ChartGraph.addEdge library ⟨vs, kept⟩ c =
          ⟨vs, if kept.any (sameEnds c) then kept else kept ++ [c]⟩ := by
        have hadd : (addNode ⟨vs, kept⟩ c.source).addNode c.target = ⟨vs, kept⟩ := by
          simp [addNode, contains, hs, ht]
        simp only [ChartGraph.addEdge, library, addEdge, hadd, hasEdge_eq_any_sameEnds]
        split <;> rfl
      rw [List.foldl_cons, List.foldl_cons, hstep, ih fun d hd => hends d (List.mem_cons_of_mem c hd)]

theorem ofChart_eq {c : Chart} (hwf : c.registry.WellFormed layout) :
    ofChart c = ⟨c.registry.nodes.map (·.id), firstOfEachPair c.registry.connections⟩ := by
  have hnodes : c.registry.nodes.foldl (ChartGraph.addNode library) library.empty =
      ⟨c.registry.nodes.map (·.id), []⟩ :=
    foldl_addNode_library (by simpa [library, empty] using hwf.nodup)
  rw [ofChart, ChartGraph.ofChart, Chart.nodes, Chart.connections, hnodes,
    foldl_addEdge_library hwf.registered]
  rfl

/-- The graph of a chart whose registry is well formed shows that registry. -/
theorem presents_of_wellFormed {c : Chart} (hwf : c.registry.WellFormed layout) :
    (ofChart c).Presents c.registry := by
  rw [ofChart_eq hwf]
  have hsub : ∀ e ∈ firstOfEachPair c.registry.connections, e ∈ c.registry.connections :=
    fun e he => List.mem_of_find?_eq_some (find?_firstOfEachPair c.registry.connections e he)
  have hsucc : ∀ v ∈ c.registry.nodes,
      (⟨c.registry.nodes.map (·.id), firstOfEachPair c.registry.connections⟩ : Digraph).successors v.id =
        v.outgoing := by
    intro v hv
    rw [hwf.outgoing v hv, ← successors_firstOfEachPair]
    rfl
  have hpred : ∀ v ∈ c.registry.nodes,
      (⟨c.registry.nodes.map (·.id), firstOfEachPair c.registry.connections⟩ : Digraph).predecessors v.id =
        v.incoming := by
    intro v hv
    rw [hwf.incoming v hv, ← predecessors_firstOfEachPair]
    rfl
  constructor
  · rfl
  · intro e he
    exact hwf.registered e (hsub e he)
  · exact map_ends_firstOfEachPair _
  · exact find?_firstOfEachPair _
  · exact hsucc
  · exact hpred
  · intro v hv
    rw [← hsucc v hv, successors, List.length_map]
    rfl
  · intro v hv
    rw [← hpred v hv, predecessors, List.length_map]
    rfl
  · rw [length_eq_sum_filter_source hwf.nodup _ fun e he => (hwf.registered e (hsub e he)).1,
      List.map_map]
    congr 1
    apply List.map_congr_left
    intro v hv
    rw [Function.comp_apply, ← hsucc v hv, successors, List.length_map]
  · rw [adjacency, ChartGraph.adjacency]
    congr 1
    show (c.registry.nodes.map (·.id)).map _ = _
    rw [List.map_map]
    apply List.map_congr_left
    intro v hv
    rw [Function.comp_apply]
    exact congrArg (fun l => (v.id, sortIds l)) (hsucc v hv)

/-- The graph of every chart read from a text shows the chart's registry: its nodes are the
chart's node ids, in order, with no node added by an edge; its edges are the distinct pairs of
connections, each tagged with the first connection of its pair; every node's successors and
predecessors are its outgoing and incoming lists, so degrees are their lengths and the edge count
is the sum of the outgoing lengths; and its adjacency list is the nodes' sorted outgoing lists,
sorted by id. -/
theorem presents_read (layout : Layout) (src : String) :
    (ofChart (Chart.read layout src)).Presents (Chart.read layout src).registry :=
  presents_of_wellFormed (Chart.registry_wellFormed layout src)

end Digraph

end Flowchart
