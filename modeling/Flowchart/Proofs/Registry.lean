import Mathlib.Data.List.Nodup
import Flowchart.Registry.Step
import Flowchart.Chart

/-!
# The registry invariant

Every registry reached by a session, and every registry a chart is read into, is well formed
(`Registry.WellFormed`): node ids are distinct, the node created `i`-th sits on row `i`, every
connection joins registered nodes, and each node's neighbour lists are exactly the distinct heads
and tails of the recorded connections at that node, in order of first appearance. The lists are
kept by membership checks as connections are appended and never recomputed, so the invariant is
what ties them to the connection list.

Each operation gets its own lemmas first: what `getOrCreate` does to the node list, what
`connect` does to one node (`Connection.link`). The invariant is kept by every step
(`WellFormed.step`, `WellFormed.add`), hence by every run.
-/

namespace Flowchart

namespace Node

/-- A node with its neighbour lists emptied: what is fixed once it is created. -/
def seed (n : Node) : Node := { n with incoming := [], outgoing := [] }

@[simp] theorem id_seed (n : Node) : n.seed.id = n.id := rfl

@[simp] theorem kind_seed (n : Node) : n.seed.kind = n.kind := rfl

@[simp] theorem label_seed (n : Node) : n.seed.label = n.label := rfl

@[simp] theorem x_seed (n : Node) : n.seed.x = n.x := rfl

@[simp] theorem y_seed (n : Node) : n.seed.y = n.y := rfl

@[simp] theorem shape_seed (n : Node) : n.seed.shape = n.shape := rfl

@[simp] theorem outgoing_linkTo (n : Node) (x : String) :
    (n.linkTo x).outgoing = if x ∈ n.outgoing then n.outgoing else n.outgoing ++ [x] := by
  unfold linkTo
  by_cases hx : x ∈ n.outgoing <;> simp [hx]

@[simp] theorem incoming_linkTo (n : Node) (x : String) : (n.linkTo x).incoming = n.incoming := by
  unfold linkTo
  split <;> rfl

@[simp] theorem seed_linkTo (n : Node) (x : String) : (n.linkTo x).seed = n.seed := by
  unfold linkTo
  split <;> rfl

@[simp] theorem incoming_linkFrom (n : Node) (x : String) :
    (n.linkFrom x).incoming = if x ∈ n.incoming then n.incoming else n.incoming ++ [x] := by
  unfold linkFrom
  by_cases hx : x ∈ n.incoming <;> simp [hx]

@[simp] theorem outgoing_linkFrom (n : Node) (x : String) :
    (n.linkFrom x).outgoing = n.outgoing := by
  unfold linkFrom
  split <;> rfl

@[simp] theorem seed_linkFrom (n : Node) (x : String) : (n.linkFrom x).seed = n.seed := by
  unfold linkFrom
  split <;> rfl

end Node

/-- What recording a connection does to one node: the source gains the target as a head, and the
target gains the source as a tail. -/
def Connection.link (c : Connection) (n : Node) : Node :=
  let m := if n.id = c.source then n.linkTo c.target else n
  if n.id = c.target then m.linkFrom c.source else m

namespace Connection

-- Each lemma splits on whether the node is the source and whether it is the target; a node that
-- is both is the node of a loop.

@[simp] theorem id_link (c : Connection) (n : Node) : (c.link n).id = n.id := by
  obtain ⟨s, t, d⟩ := c
  rcases Classical.em (n.id = s) with rfl | hs <;> rcases Classical.em (n.id = t) with rfl | ht <;>
    simp [link, *]

@[simp] theorem seed_link (c : Connection) (n : Node) : (c.link n).seed = n.seed := by
  obtain ⟨s, t, d⟩ := c
  rcases Classical.em (n.id = s) with rfl | hs <;> rcases Classical.em (n.id = t) with rfl | ht <;>
    simp [link, *]

theorem outgoing_link (c : Connection) (n : Node) :
    (c.link n).outgoing =
      if n.id = c.source ∧ c.target ∉ n.outgoing then n.outgoing ++ [c.target]
      else n.outgoing := by
  by_cases hm : c.target ∈ n.outgoing
  all_goals
    obtain ⟨s, t, d⟩ := c
    rcases Classical.em (n.id = s) with rfl | hs <;>
      rcases Classical.em (n.id = t) with rfl | ht <;> simp_all [link]

theorem incoming_link (c : Connection) (n : Node) :
    (c.link n).incoming =
      if n.id = c.target ∧ c.source ∉ n.incoming then n.incoming ++ [c.source]
      else n.incoming := by
  by_cases hm : c.source ∈ n.incoming
  all_goals
    obtain ⟨s, t, d⟩ := c
    rcases Classical.em (n.id = s) with rfl | hs <;>
      rcases Classical.em (n.id = t) with rfl | ht <;> simp_all [link]

end Connection

namespace Registry

variable {layout : Layout} {r : Registry}

/-! ## Looking ids up -/

theorem contains_iff {id : String} : r.contains id = true ↔ id ∈ r.nodes.map (·.id) := by
  simp [contains]

theorem get?_eq_none_iff {id : String} : r.get? id = none ↔ id ∉ r.nodes.map (·.id) := by
  simp [get?]

theorem get?_eq_some {id : String} {n : Node} (h : r.get? id = some n) :
    n ∈ r.nodes ∧ n.id = id :=
  ⟨List.mem_of_find?_eq_some h, by simpa using List.find?_some h⟩

/-! ## Getting or creating a node -/

theorem getOrCreate_of_mem {id : String} (hid : id ∈ r.nodes.map (·.id)) (d : Draft) :
    (r.getOrCreate layout id d).2 = r := by
  cases hget : r.get? id with
  | none => exact absurd hid (get?_eq_none_iff.mp hget)
  | some n => rw [getOrCreate_of_get?_eq_some d hget]

theorem nodes_getOrCreate (id : String) (d : Draft) :
    (r.getOrCreate layout id d).2.nodes =
      if id ∈ r.nodes.map (·.id) then r.nodes else r.nodes ++ [r.fresh layout id d] := by
  split
  · rename_i hid
    rw [getOrCreate_of_mem hid]
  · rename_i hid
    rw [getOrCreate_of_get?_eq_none d (get?_eq_none_iff.mpr hid)]

@[simp] theorem connections_getOrCreate (id : String) (d : Draft) :
    (r.getOrCreate layout id d).2.connections = r.connections := by
  unfold getOrCreate
  split <;> rfl

theorem map_id_getOrCreate (id : String) (d : Draft) :
    (r.getOrCreate layout id d).2.nodes.map (·.id) =
      if id ∈ r.nodes.map (·.id) then r.nodes.map (·.id) else r.nodes.map (·.id) ++ [id] := by
  rw [nodes_getOrCreate]
  split <;> simp [fresh]

theorem mem_getOrCreate (id : String) (d : Draft) :
    id ∈ (r.getOrCreate layout id d).2.nodes.map (·.id) := by
  rw [map_id_getOrCreate]
  split <;> simp_all

theorem mem_getOrCreate_of_mem {x : String} (id : String) (d : Draft)
    (hx : x ∈ r.nodes.map (·.id)) : x ∈ (r.getOrCreate layout id d).2.nodes.map (·.id) := by
  rw [map_id_getOrCreate]
  split <;> simp_all

theorem get?_getOrCreate_of_get? {x : String} {u : Node} (h : r.get? x = some u) (id : String)
    (d : Draft) : (r.getOrCreate layout id d).2.get? x = some u := by
  unfold getOrCreate
  split
  · exact h
  · simp only [get?, List.find?_append] at h ⊢
    rw [h]
    rfl

theorem get?_getOrCreate_of_ne {x id : String} (hx : x ≠ id) (d : Draft) :
    (r.getOrCreate layout id d).2.get? x = r.get? x := by
  unfold getOrCreate
  split
  · rfl
  · simp only [get?, List.find?_append]
    cases r.nodes.find? (·.id == x) with
    | some n => rfl
    | none => simp [fresh, Ne.symm hx]

theorem get?_getOrCreate_self {id : String} (h : r.get? id = none) (d : Draft) :
    (r.getOrCreate layout id d).2.get? id = some (r.fresh layout id d) := by
  rw [getOrCreate_of_get?_eq_none d h]
  simp only [get?, List.find?_append] at h ⊢
  rw [h]
  simp [fresh]

/-! ## Connecting two nodes -/

theorem nodes_connect (c : Connection) : (r.connect c).nodes = r.nodes.map c.link := by
  simp only [connect, modify, List.map_map]
  apply List.map_congr_left
  intro n _
  by_cases hs : n.id = c.source <;> simp [Connection.link, hs]

theorem get?_connect (c : Connection) (x : String) :
    (r.connect c).get? x = (r.get? x).map c.link := by
  simp only [get?, nodes_connect, List.find?_map]
  congr 2
  funext n
  simp

/-! ## The invariant -/

/-- The distinct heads of the connections that leave `id`, in order of first appearance. -/
def heads (cs : List Connection) (id : String) : List String :=
  ((cs.filter (·.source == id)).map (·.target)).eraseDups

/-- The distinct tails of the connections that enter `id`, in order of first appearance. -/
def tails (cs : List Connection) (id : String) : List String :=
  ((cs.filter (·.target == id)).map (·.source)).eraseDups

-- `heads` and `tails` are one construction with the two ends swapped: the distinct `other` ends
-- of the connections whose `key` end is `id`.

theorem distinctEnds_append (key other : Connection → String) (cs : List Connection)
    (c : Connection) (id : String) :
    (((cs ++ [c]).filter (key · == id)).map other).eraseDups =
      if id = key c ∧ other c ∉ ((cs.filter (key · == id)).map other).eraseDups then
        ((cs.filter (key · == id)).map other).eraseDups ++ [other c]
      else ((cs.filter (key · == id)).map other).eraseDups := by
  rw [List.filter_append, List.map_append, List.eraseDups_append]
  simp only [List.mem_eraseDups]
  by_cases hs : id = key c
  · subst hs
    by_cases ht : other c ∈ (cs.filter (key · == key c)).map other
    · simp_all [List.removeAll]
    · simp_all [List.removeAll, List.eraseDups_cons]
  · simp [hs, Ne.symm hs]

private theorem distinctEnds_eq_nil (key other : Connection → String) {cs : List Connection}
    {id : String} (h : ∀ c ∈ cs, key c ≠ id) :
    ((cs.filter (key · == id)).map other).eraseDups = [] := by
  rw [List.filter_eq_nil_iff.mpr fun c hc => by simpa using h c hc]
  rfl

theorem heads_append (cs : List Connection) (c : Connection) (id : String) :
    heads (cs ++ [c]) id =
      if id = c.source ∧ c.target ∉ heads cs id then heads cs id ++ [c.target]
      else heads cs id :=
  distinctEnds_append Connection.source Connection.target cs c id

theorem tails_append (cs : List Connection) (c : Connection) (id : String) :
    tails (cs ++ [c]) id =
      if id = c.target ∧ c.source ∉ tails cs id then tails cs id ++ [c.source]
      else tails cs id :=
  distinctEnds_append Connection.target Connection.source cs c id

/-- A well-formed registry: distinct ids, one row per node in order of creation, connections
between registered nodes, and neighbour lists that are the distinct heads and tails of the
connections, in order. -/
structure WellFormed (layout : Layout) (r : Registry) : Prop where
  nodup : (r.nodes.map (·.id)).Nodup
  rows : ∀ (i : Nat) (v : Node), r.nodes[i]? = some v → v.y = layout.rowY i
  registered : ∀ c ∈ r.connections,
    c.source ∈ r.nodes.map (·.id) ∧ c.target ∈ r.nodes.map (·.id)
  outgoing : ∀ v ∈ r.nodes, v.outgoing = heads r.connections v.id
  incoming : ∀ v ∈ r.nodes, v.incoming = tails r.connections v.id

theorem wellFormed_empty : WellFormed layout {} where
  nodup := List.nodup_nil
  rows _ _ h := by simp at h
  registered _ h := by simp at h
  outgoing _ h := by simp at h
  incoming _ h := by simp at h

/-! ## Each step keeps the invariant -/

namespace WellFormed

theorem not_mem_ends (h : r.WellFormed layout) {id : String} (hid : id ∉ r.nodes.map (·.id)) :
    ∀ c ∈ r.connections, c.source ≠ id ∧ c.target ≠ id := fun c hc =>
  ⟨fun he => hid (he ▸ (h.registered c hc).1), fun he => hid (he ▸ (h.registered c hc).2)⟩

theorem getOrCreate (h : r.WellFormed layout) (id : String) (d : Draft) :
    (r.getOrCreate layout id d).2.WellFormed layout := by
  by_cases hid : id ∈ r.nodes.map (·.id)
  · rw [getOrCreate_of_mem hid]
    exact h
  · rw [getOrCreate_of_get?_eq_none d (get?_eq_none_iff.mpr hid)]
    have hfree := h.not_mem_ends hid
    constructor
    · have hnew : (r.fresh layout id d).id = id := rfl
      rw [List.map_append, List.map_singleton, hnew, List.nodup_append]
      refine ⟨h.nodup, by simp, fun a ha b hb => ?_⟩
      obtain rfl := List.mem_singleton.mp hb
      rintro rfl
      exact hid ha
    · intro i v hv
      rw [List.getElem?_append] at hv
      split at hv
      · exact h.rows i v hv
      · rename_i hi
        rw [List.getElem?_singleton] at hv
        split at hv
        · cases hv
          simp only [fresh, size]
          congr
          omega
        · cases hv
    · intro c hc
      have hends := h.registered c hc
      simp only [List.map_append, List.mem_append]
      exact ⟨.inl hends.1, .inl hends.2⟩
    · intro v hv
      rcases List.mem_append.mp hv with hv | hv
      · exact h.outgoing v hv
      · obtain rfl := List.mem_singleton.mp hv
        exact (distinctEnds_eq_nil _ _ fun c hc => (hfree c hc).1).symm
    · intro v hv
      rcases List.mem_append.mp hv with hv | hv
      · exact h.incoming v hv
      · obtain rfl := List.mem_singleton.mp hv
        exact (distinctEnds_eq_nil _ _ fun c hc => (hfree c hc).2).symm

theorem connect (h : r.WellFormed layout) {c : Connection}
    (hs : c.source ∈ r.nodes.map (·.id)) (ht : c.target ∈ r.nodes.map (·.id)) :
    (r.connect c).WellFormed layout := by
  have hids := map_id_connect r c
  constructor
  · rw [hids]
    exact h.nodup
  · intro i v hv
    rw [nodes_connect, List.getElem?_map] at hv
    obtain ⟨u, hu, rfl⟩ := Option.map_eq_some_iff.mp hv
    have hy : (c.link u).y = u.y := by
      have hseed := congrArg Node.y (c.seed_link u)
      rwa [Node.y_seed, Node.y_seed] at hseed
    rw [hy]
    exact h.rows i u hu
  · intro c' hc'
    rw [hids]
    rcases List.mem_append.mp hc' with hc' | hc'
    · exact h.registered c' hc'
    · obtain rfl := List.mem_singleton.mp hc'
      exact ⟨hs, ht⟩
  · intro v hv
    rw [nodes_connect] at hv
    obtain ⟨u, hu, rfl⟩ := List.mem_map.mp hv
    rw [Connection.outgoing_link, Connection.id_link, connections_connect, heads_append,
      h.outgoing u hu]
  · intro v hv
    rw [nodes_connect] at hv
    obtain ⟨u, hu, rfl⟩ := List.mem_map.mp hv
    rw [Connection.incoming_link, Connection.id_link, connections_connect, tails_append,
      h.incoming u hu]

theorem record (h : r.WellFormed layout) {c : Connection} {r' : Registry}
    (hr : r.record c = .ok r') : r'.WellFormed layout := by
  unfold Registry.record at hr
  split at hr
  · cases hr
  · split at hr
    · cases hr
    · rename_i hs ht
      cases hr
      simp only [Bool.not_eq_true', Bool.not_eq_false] at hs ht
      exact h.connect (contains_iff.mp hs) (contains_iff.mp ht)

theorem step (h : r.WellFormed layout) (s : Step) : (r.step layout s).2.WellFormed layout := by
  cases s with
  | getOrCreate id d => exact h.getOrCreate id d
  | record c =>
      simp only [Registry.step]
      cases hr : r.record c with
      | ok r' => exact h.record hr
      | error e => exact h
  | get id => exact h
  | contains id => exact h
  | size => exact h
  | nodes => exact h
  | connections => exact h

theorem get?_of_mem (h : r.WellFormed layout) {v : Node} (hv : v ∈ r.nodes) :
    r.get? v.id = some v := by
  have hsome : (r.get? v.id).isSome := by
    simp only [get?, List.find?_isSome, beq_iff_eq]
    exact ⟨v, hv, rfl⟩
  obtain ⟨w, hw⟩ := Option.isSome_iff_exists.mp hsome
  obtain ⟨hwmem, hwid⟩ := get?_eq_some hw
  rw [hw, List.inj_on_of_nodup_map h.nodup hwmem hv hwid]

theorem afterAll (h : r.WellFormed layout) (steps : List Step) :
    (afterAll layout r steps).WellFormed layout := by
  induction steps generalizing r with
  | nil => exact h
  | cons s steps ih => exact ih (h.step s)

end WellFormed

end Registry

/-! ## Reading a chart keeps the invariant -/

namespace Chart

variable {layout : Layout} {r : Registry}

theorem source_mem_declare (s : Statement) :
    s.source.id ∈ (declare layout r s).nodes.map (·.id) :=
  Registry.mem_getOrCreate_of_mem _ _ (Registry.mem_getOrCreate _ _)

theorem target_mem_declare (s : Statement) :
    s.target.id ∈ (declare layout r s).nodes.map (·.id) :=
  Registry.mem_getOrCreate _ _

end Chart

namespace Registry.WellFormed

variable {layout : Layout} {r : Registry}

theorem declare (h : r.WellFormed layout) (s : Statement) :
    (Chart.declare layout r s).WellFormed layout :=
  (h.getOrCreate _ _).getOrCreate _ _

theorem add (h : r.WellFormed layout) (s : Statement) :
    (Chart.add layout r s).WellFormed layout :=
  (h.declare s).connect (Chart.source_mem_declare s) (Chart.target_mem_declare s)

theorem foldl_add (h : r.WellFormed layout) (ms : List Statement) :
    (ms.foldl (Chart.add layout) r).WellFormed layout := by
  induction ms generalizing r with
  | nil => exact h
  | cons m ms ih => exact ih (h.add m)

end Registry.WellFormed

theorem Chart.registry_wellFormed (layout : Layout) (src : String) :
    (Chart.read layout src).registry.WellFormed layout :=
  Registry.wellFormed_empty.foldl_add _

/-- Every registry that a session of steps reaches from the empty one, failed records included,
and every registry a chart is read into, is well formed. -/
theorem Registry.wellFormed_reachable (layout : Layout) :
    (∀ steps, (Registry.afterAll layout {} steps).WellFormed layout) ∧
      ∀ src, (Chart.read layout src).registry.WellFormed layout :=
  ⟨fun steps => wellFormed_empty.afterAll steps, Chart.registry_wellFormed layout⟩

end Flowchart
