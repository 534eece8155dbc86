import Flowchart.Proofs.Reading

/-!
# Registries only grow

Between any two moments of a session of registry steps, the later registry extends the earlier
one (`Registry.Extends`): every node keeps its place and its seed (id, kind, label, shape and
position), its neighbour lists and the connection list only gain entries at their ends, and new
nodes come after the old ones. Asking for a registered id changes nothing, whatever draft comes
with it.

Reading a chart is such a session (`Chart.steps`): for each accepted line it looks the source up,
gets or creates the source and then the target, and records the connection. So the same holds
between any two moments of reading a chart.
-/

namespace Flowchart

namespace Node

/-- `v'` is `v` with possibly more neighbours: the same seed, and neighbour lists that begin with
those of `v`. -/
structure Extends (v v' : Node) : Prop where
  seed : v'.seed = v.seed
  incoming : v.incoming <+: v'.incoming
  outgoing : v.outgoing <+: v'.outgoing

namespace Extends

theorem refl (v : Node) : v.Extends v := ⟨rfl, List.prefix_refl _, List.prefix_refl _⟩

theorem trans {u v w : Node} (h : u.Extends v) (h' : v.Extends w) : u.Extends w :=
  ⟨h'.seed.trans h.seed, h.incoming.trans h'.incoming, h.outgoing.trans h'.outgoing⟩

theorem id_eq {v v' : Node} (h : v.Extends v') : v'.id = v.id := by
  rw [← Node.id_seed, h.seed, Node.id_seed]

end Extends

end Node

theorem Connection.extends_link (c : Connection) (v : Node) : v.Extends (c.link v) := by
  refine ⟨c.seed_link v, ?_, ?_⟩
  · rw [c.incoming_link]
    split
    · exact List.prefix_append _ _
    · exact List.prefix_refl _
  · rw [c.outgoing_link]
    split
    · exact List.prefix_append _ _
    · exact List.prefix_refl _

namespace Registry

/-- `r'` extends `r`: the node at each place of `r` is still there in `r'`, extended, and the
connections of `r` begin those of `r'`. -/
structure Extends (r r' : Registry) : Prop where
  node : ∀ (i : Nat) (v : Node), r.nodes[i]? = some v →
    ∃ v', r'.nodes[i]? = some v' ∧ v.Extends v'
  connections : r.connections <+: r'.connections

namespace Extends

theorem refl (r : Registry) : r.Extends r :=
  ⟨fun _ v hv => ⟨v, hv, Node.Extends.refl v⟩, List.prefix_refl _⟩

theorem trans {r r' r'' : Registry} (h : r.Extends r') (h' : r'.Extends r'') : r.Extends r'' where
  node i v hv := by
    obtain ⟨v', hv', hext⟩ := h.node i v hv
    obtain ⟨v'', hv'', hext'⟩ := h'.node i v' hv'
    exact ⟨v'', hv'', hext.trans hext'⟩
  connections := h.connections.trans h'.connections

theorem map_id {r r' : Registry} (h : r.Extends r') :
    r.nodes.map (·.id) <+: r'.nodes.map (·.id) := by
  rw [List.prefix_iff_eq_take, List.length_map]
  apply List.ext_getElem?
  intro i
  rw [List.getElem?_take, List.getElem?_map, List.getElem?_map]
  cases hv : r.nodes[i]? with
  | none =>
      have hi : r.nodes.length ≤ i := List.getElem?_eq_none_iff.mp hv
      rw [if_neg (by omega)]
      rfl
  | some v =>
      obtain ⟨v', hv', hext⟩ := h.node i v hv
      obtain ⟨hi, -⟩ := List.getElem?_eq_some_iff.mp hv
      rw [if_pos hi, hv', Option.map_some, Option.map_some, hext.id_eq]

end Extends

variable {layout : Layout}

/-! ## Every step extends the registry -/

theorem extends_getOrCreate (r : Registry) (id : String) (d : Draft) :
    r.Extends (r.getOrCreate layout id d).2 := by
  refine ⟨fun i v hv => ⟨v, ?_, Node.Extends.refl v⟩, ?_⟩
  · rw [nodes_getOrCreate]
    split
    · exact hv
    · obtain ⟨hi, -⟩ := List.getElem?_eq_some_iff.mp hv
      rw [List.getElem?_append_left hi]
      exact hv
  · simp only [connections_getOrCreate, List.prefix_refl]

theorem extends_connect (r : Registry) (c : Connection) : r.Extends (r.connect c) := by
  refine ⟨fun i v hv => ⟨c.link v, ?_, c.extends_link v⟩, ?_⟩
  · rw [nodes_connect, List.getElem?_map, hv, Option.map_some]
  · rw [connections_connect]
    exact List.prefix_append _ _

theorem extends_step (r : Registry) (s : Step) : r.Extends (r.step layout s).2 := by
  cases s with
  | getOrCreate id d => exact extends_getOrCreate r id d
  | record c =>
      simp only [step]
      cases hr : r.record c with
      | ok r' =>
          unfold record at hr
          split at hr
          · cases hr
          · split at hr
            · cases hr
            · cases hr
              exact extends_connect r c
      | error e => exact Extends.refl r
  | get id => exact Extends.refl r
  | contains id => exact Extends.refl r
  | size => exact Extends.refl r
  | nodes => exact Extends.refl r
  | connections => exact Extends.refl r

theorem extends_afterAll (r : Registry) (steps : List Step) :
    r.Extends (afterAll layout r steps) := by
  induction steps generalizing r with
  | nil => exact Extends.refl r
  | cons s steps ih => exact (extends_step r s).trans (ih _)

theorem afterAll_append (r : Registry) (steps more : List Step) :
    afterAll layout r (steps ++ more) = afterAll layout (afterAll layout r steps) more :=
  List.foldl_append

end Registry

/-! ## Reading a chart is a session -/

namespace Chart

variable {layout : Layout}

def lineSteps (layout : Layout) (r : Registry) (s : Statement) : List Registry.Step :=
  let seed := layout.edgeX ((r.get? s.source.id).map fun n => (n.x, n.outgoing.length))
  [.get s.source.id, .getOrCreate s.source.id (s.source.draft seed.1),
    .getOrCreate s.target.id (s.target.draft seed.2), .record s.connection]

def session (layout : Layout) : Registry → List Statement → List Registry.Step
  | _, [] => []
  | r, s :: ss => lineSteps layout r s ++ session layout (add layout r s) ss

/-- The steps that reading a chart text makes, from the empty registry. -/
def steps (layout : Layout) (src : String) : List Registry.Step :=
  session layout {} ((readings src).filterMap id)

theorem afterAll_lineSteps (r : Registry) (s : Statement) :
    Registry.afterAll layout r (lineSteps layout r s) = add layout r s := by
  have hrecord : (declare layout r s).record s.connection = .ok (add layout r s) :=
    record_declare r s
  simp only [declare] at hrecord
  simp only [lineSteps, Registry.afterAll, List.foldl, Registry.step, hrecord]

theorem afterAll_session (r : Registry) (ms : List Statement) :
    Registry.afterAll layout r (session layout r ms) = ms.foldl (add layout) r := by
  induction ms generalizing r with
  | nil => rfl
  | cons m ms ih =>
      rw [session, Registry.afterAll_append, afterAll_lineSteps, ih, List.foldl_cons]

theorem registry_read_eq_afterAll (src : String) :
    (read layout src).registry = Registry.afterAll layout {} (steps layout src) :=
  (afterAll_session {} _).symm

end Chart

/-- Between any two moments of a session of registry steps the registry only grows: the later
registry extends the earlier one. Reading a chart is the session `Chart.steps` of look-ups,
get-or-creates and records, so the same holds between any two moments of reading. Asking for a
registered id gives its node and leaves the registry as it is, whatever the draft. -/
theorem Registry.extends_of_reached (layout : Layout) :
    (∀ steps more : List Step, (afterAll layout {} steps).Extends
      (afterAll layout {} (steps ++ more))) ∧
    (∀ src, (Chart.read layout src).registry = afterAll layout {} (Chart.steps layout src)) ∧
    (∀ (r : Registry) (id : String) (n : Node) (d : Draft), r.get? id = some n →
      r.getOrCreate layout id d = (n, r)) := by
  refine ⟨fun steps more => ?_, Chart.registry_read_eq_afterAll, ?_⟩
  · rw [afterAll_append]
    exact extends_afterAll _ more
  · intro r id n d h
    exact getOrCreate_of_get?_eq_some d h

/-- A second request for a node, with another draft, gives back the node the first request made
and leaves the registry as it is. -/
theorem Registry.extends_of_reached_redeclared :
    (Registry.empty.getOrCreate {} "A" {}).2.get? "A" =
        some (Registry.empty.getOrCreate {} "A" {}).1 ∧
      (Registry.empty.getOrCreate {} "A" {}).2.getOrCreate {} "A"
          { kind := .block, label := "B", shape := .round, x := 7 } =
        Registry.empty.getOrCreate {} "A" {} :=
  ⟨by decide, (Registry.extends_of_reached {}).2.2 _ "A" _ _ (by decide)⟩

end Flowchart
