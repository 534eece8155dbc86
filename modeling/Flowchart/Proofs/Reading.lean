import Flowchart.Proofs.Registry

/-!
# Reading a chart

What a chart read from a text holds, line by line. Only the accepted lines count: each adds one
connection, in order, and its two ends as nodes, source first, unless they are there already; a
rejected line changes nothing, so the text of the accepted lines alone gives the same chart
(`read_accepted_lines`). The connection a line records always joins nodes that the line has just
got or created, so recording it never fails.

A node is fixed by the first accepted line that names it (`node_of_first_mention`): its shape,
kind and label come from that line's declaration of it, and its abscissa from the layout as it
stood before that line, fanned out by the edges already leaving its source.
-/

namespace Flowchart

def Statement.endpoints (s : Statement) : List String := [s.source.id, s.target.id]

theorem eraseDups_append_singleton {α : Type} [BEq α] [LawfulBEq α] (l : List α) (x : α) :
    (l ++ [x]).eraseDups = if x ∈ l then l.eraseDups else l.eraseDups ++ [x] := by
  rw [List.eraseDups_append]
  by_cases hx : x ∈ l <;> simp [hx, List.removeAll, List.eraseDups_cons]

namespace Chart

variable {layout : Layout} {r : Registry}

/-! ## One accepted line -/

@[simp] theorem connections_declare (s : Statement) :
    (declare layout r s).connections = r.connections := by
  simp [declare]

@[simp] theorem connections_add (s : Statement) :
    (add layout r s).connections = r.connections ++ [s.connection] := by
  simp [add]

theorem map_id_declare {l : List String} (hl : r.nodes.map (·.id) = l.eraseDups) (s : Statement) :
    (declare layout r s).nodes.map (·.id) = (l ++ s.endpoints).eraseDups := by
  simp only [declare, Registry.map_id_getOrCreate, hl, Statement.endpoints]
  rw [show l ++ [s.source.id, s.target.id] = l ++ [s.source.id] ++ [s.target.id] by simp,
    eraseDups_append_singleton, eraseDups_append_singleton]
  simp only [List.mem_eraseDups, List.mem_append, List.mem_singleton]
  by_cases hs : s.source.id ∈ l <;> by_cases ht : s.target.id ∈ l <;>
    by_cases hst : s.target.id = s.source.id <;> simp [hs, ht, hst]

theorem map_id_add {l : List String} (hl : r.nodes.map (·.id) = l.eraseDups) (s : Statement) :
    (add layout r s).nodes.map (·.id) = (l ++ s.endpoints).eraseDups := by
  rw [add, Registry.map_id_connect, map_id_declare hl]

theorem record_declare (r : Registry) (s : Statement) :
    (declare layout r s).record s.connection = .ok (add layout r s) :=
  Registry.record_of_contains (Registry.contains_iff.mpr (source_mem_declare s))
    (Registry.contains_iff.mpr (target_mem_declare s))

/-! ## A run of accepted lines -/

theorem connections_foldl_add (ms : List Statement) :
    (ms.foldl (add layout) r).connections = r.connections ++ ms.map Statement.connection := by
  induction ms generalizing r with
  | nil => simp
  | cons m ms ih => simp [ih]

theorem map_id_foldl_add {l : List String} (hl : r.nodes.map (·.id) = l.eraseDups)
    (ms : List Statement) :
    (ms.foldl (add layout) r).nodes.map (·.id) =
      (l ++ ms.flatMap Statement.endpoints).eraseDups := by
  induction ms generalizing r l with
  | nil => simp [hl]
  | cons m ms ih =>
      rw [List.foldl_cons, ih (map_id_add hl m), List.flatMap_cons, List.append_assoc]

/-! ## Lines -/

theorem not_mem_of_mem_splitOn {xs l : List Char} (hl : l ∈ xs.splitOn '\n') : '\n' ∉ l := by
  induction xs generalizing l with
  | nil =>
      obtain rfl : l = [] := by simpa using hl
      simp
  | cons x xs ih =>
      rw [List.splitOn_cons_eq_if_modifyHead] at hl
      split at hl
      · rcases List.mem_cons.mp hl with rfl | hl
        · simp
        · exact ih hl
      · rename_i hx
        obtain ⟨p, ps, hps⟩ := List.exists_cons_of_ne_nil (List.splitOn_ne_nil '\n' xs)
        rw [hps, List.modifyHead_cons] at hl
        rcases List.mem_cons.mp hl with rfl | hl
        · have hp := ih (hps ▸ List.mem_cons_self)
          simp only [List.mem_cons, not_or]
          refine ⟨fun h => ?_, hp⟩
          subst h
          exact hx (by decide)
        · exact ih (hps ▸ List.mem_cons_of_mem p hl)

theorem not_mem_of_mem_lines {src : String} {l : List Char} (hl : l ∈ lines src) : '\n' ∉ l := by
  unfold lines at hl
  split at hl
  · cases hl
  · exact not_mem_of_mem_splitOn hl

theorem lines_intercalate {ls : List (List Char)} (hnl : ∀ l ∈ ls, '\n' ∉ l)
    (hne : ∀ l ∈ ls, l ≠ []) : lines ("\n".intercalate (ls.map String.ofList)) = ls := by
  have htext : ("\n".intercalate (ls.map String.ofList)).toList = ['\n'].intercalate ls := by
    simp [Function.comp_def]
  cases ls with
  | nil => rfl
  | cons l ls =>
      have hsplit := List.splitOn_intercalate '\n' hnl (List.cons_ne_nil l ls)
      unfold lines
      rw [if_neg, htext, hsplit]
      intro hempty
      have hnil : ['\n'].intercalate (l :: ls) = [] := by
        rw [← htext, String.isEmpty_iff.mp hempty]
        rfl
      rw [hnil] at hsplit
      have hl : l = [] ∧ ls = [] := by simpa using hsplit
      exact hne l List.mem_cons_self hl.1

/-- The accepted lines of a text alone, joined by line feeds. -/
def acceptedText (src : String) : String :=
  "\n".intercalate (((lines src).filter fun l => (Statement.read? l).isSome).map String.ofList)

/-- The chart of a text and the chart of its accepted lines alone have one registry. -/
theorem registry_read_accepted (layout : Layout) (src : String) :
    (read layout (acceptedText src)).registry = (read layout src).registry := by
  have hempty : Statement.read? [] = none := by decide
  have haccepted : ∀ l ∈ (lines src).filter fun l => (Statement.read? l).isSome,
      '\n' ∉ l ∧ l ≠ [] := by
    intro l hl
    obtain ⟨hmem, hread⟩ := List.mem_filter.mp hl
    refine ⟨not_mem_of_mem_lines hmem, ?_⟩
    rintro rfl
    simp [hempty] at hread
  simp only [read, ofReadings, readings, acceptedText]
  rw [lines_intercalate (fun l hl => (haccepted l hl).1) (fun l hl => (haccepted l hl).2),
    List.filterMap_map, List.filterMap_map, List.filterMap_filter]
  congr 2
  funext l
  cases h : Statement.read? l <;> simp [h]

/-! ## The line that makes a node -/

theorem get?_add_of_get? {x : String} {u : Node} (h : r.get? x = some u) (s : Statement) :
    ∃ u', (add layout r s).get? x = some u' ∧ u'.seed = u.seed := by
  have hdeclared : (declare layout r s).get? x = some u :=
    Registry.get?_getOrCreate_of_get? (Registry.get?_getOrCreate_of_get? h _ _) _ _
  refine ⟨s.connection.link u, ?_, Connection.seed_link _ _⟩
  rw [add, Registry.get?_connect, hdeclared]
  rfl

theorem get?_foldl_add_of_get? {x : String} {u : Node} (h : r.get? x = some u)
    (ms : List Statement) :
    ∃ u', (ms.foldl (add layout) r).get? x = some u' ∧ u'.seed = u.seed := by
  induction ms generalizing r u with
  | nil => exact ⟨u, h, rfl⟩
  | cons m ms ih =>
      obtain ⟨u₁, hu₁, hseed₁⟩ : ∃ u₁, (add layout r m).get? x = some u₁ ∧ u₁.seed = u.seed :=
        get?_add_of_get? h m
      obtain ⟨u₂, hu₂, hseed₂⟩ := ih hu₁
      exact ⟨u₂, hu₂, hseed₂.trans hseed₁⟩

end Chart

/-- The node `n` is made from what the endpoint `e` declares, placed at `x`: its shape and kind
are those of the marker, and its label is the declared one, or the id when that is empty. -/
def Endpoint.Makes (e : Endpoint) (x : Int) (n : Node) : Prop :=
  n.shape = e.shape ∧ n.kind = e.shape.kind ∧
    n.label = (e.label?.filter (· != "")).getD e.id ∧ n.x = x

namespace Endpoint

private theorem label_or_id (label? : Option String) (id : String) :
    (if (label?.getD "").isEmpty then id else label?.getD "") =
      (label?.filter (· != "")).getD id := by
  cases label? with
  | none => rfl
  | some l => by_cases hl : l = "" <;> simp [hl, Option.filter, String.isEmpty_iff]

theorem makes_fresh (e : Endpoint) (x : Int) (layout : Layout) (r : Registry) :
    e.Makes x (r.fresh layout e.id (e.draft x)) :=
  ⟨rfl, rfl, label_or_id e.label? e.id, rfl⟩

-- what a line makes is fixed once it is made: it reads no neighbour list
@[simp] theorem makes_seed {e : Endpoint} {x : Int} {n : Node} :
    e.Makes x n.seed ↔ e.Makes x n := by
  simp [Makes]

theorem Makes.of_seed {e : Endpoint} {x : Int} {n n' : Node} (h : e.Makes x n)
    (hseed : n'.seed = n.seed) : e.Makes x n' := by
  rw [← makes_seed, hseed, makes_seed]
  exact h

end Endpoint

namespace Chart

variable {layout : Layout} {r : Registry}

theorem get?_add_source {m : Statement} (h : r.get? m.source.id = none) :
    ∃ u, (add layout r m).get? m.source.id = some u ∧ m.source.Makes layout.seedSourceX u := by
  have hseed : layout.edgeX ((r.get? m.source.id).map fun n => (n.x, n.outgoing.length)) =
      (layout.seedSourceX, layout.seedTargetX) := by
    rw [h]
    rfl
  simp only [add, declare, hseed]
  rw [Registry.get?_connect, Registry.get?_getOrCreate_of_get? (Registry.get?_getOrCreate_self h _)]
  exact ⟨_, rfl, (m.source.makes_fresh _ layout r).of_seed (Connection.seed_link _ _)⟩

theorem get?_add_target {m : Statement} (hst : m.target.id ≠ m.source.id)
    (h : r.get? m.target.id = none) :
    ∃ u, (add layout r m).get? m.target.id = some u ∧
      m.target.Makes
        (layout.edgeX ((r.get? m.source.id).map fun n => (n.x, n.outgoing.length))).2 u := by
  generalize hseed : layout.edgeX ((r.get? m.source.id).map fun n => (n.x, n.outgoing.length)) =
    seed
  have hafter : (r.getOrCreate layout m.source.id (m.source.draft seed.1)).2.get? m.target.id =
      none := by
    rw [Registry.get?_getOrCreate_of_ne hst]
    exact h
  simp only [add, declare, hseed]
  rw [Registry.get?_connect, Registry.get?_getOrCreate_self hafter]
  exact ⟨_, rfl, (m.target.makes_fresh _ layout _).of_seed (Connection.seed_link _ _)⟩

theorem exists_first_mention {ms : List Statement} {x : String}
    (hx : x ∈ ms.flatMap Statement.endpoints) :
    ∃ pre m post, ms = pre ++ m :: post ∧ x ∈ m.endpoints ∧
      x ∉ pre.flatMap Statement.endpoints := by
  obtain ⟨m, hm⟩ : ∃ m, ms.find? (fun m => x ∈ m.endpoints) = some m := by
    apply Option.isSome_iff_exists.mp
    simpa using List.mem_flatMap.mp hx
  obtain ⟨hxm, pre, post, rfl, hpre⟩ := List.find?_eq_some_iff_append.mp hm
  refine ⟨pre, m, post, rfl, by simpa using hxm, ?_⟩
  simpa using hpre

theorem heads_map_connection (ms : List Statement) (x : String) :
    Registry.heads (ms.map Statement.connection) x =
      ((ms.filter (·.source.id == x)).map (·.target.id)).eraseDups := by
  simp [Registry.heads, List.filter_map, Function.comp_def, Statement.connection]

theorem get?_add_of_get?_eq_none {m : Statement} {x : String} (hx : x ∈ m.endpoints)
    (h : r.get? x = none) :
    ∃ u, (add layout r m).get? x = some u ∧
      if x = m.source.id then m.source.Makes layout.seedSourceX u
      else x = m.target.id ∧ m.target.Makes
        (layout.edgeX ((r.get? m.source.id).map fun n => (n.x, n.outgoing.length))).2 u := by
  by_cases hs : x = m.source.id
  · subst hs
    obtain ⟨u, hu, hmakes⟩ := get?_add_source h
    exact ⟨u, hu, by rwa [if_pos rfl]⟩
  · have ht : x = m.target.id := by simpa [Statement.endpoints, hs] using hx
    subst ht
    obtain ⟨u, hu, hmakes⟩ := get?_add_target hs h
    exact ⟨u, hu, by rw [if_neg hs]; exact ⟨rfl, hmakes⟩⟩

theorem mem_map_id_foldl_add {ms : List Statement} {x : String} :
    x ∈ (ms.foldl (add layout) {}).nodes.map (·.id) ↔ x ∈ ms.flatMap Statement.endpoints := by
  rw [map_id_foldl_add (l := []) rfl ms, List.nil_append, List.mem_eraseDups]

theorem get?_foldl_add_eq_none {ms : List Statement} {x : String}
    (hx : x ∉ ms.flatMap Statement.endpoints) : (ms.foldl (add layout) {}).get? x = none :=
  Registry.get?_eq_none_iff.mpr (mt mem_map_id_foldl_add.mp hx)

theorem get?_foldl_add_of_mem {ms : List Statement} {x : String}
    (hx : x ∈ ms.flatMap Statement.endpoints) :
    ∃ u, (ms.foldl (add layout) {}).get? x = some u ∧
      u.outgoing = ((ms.filter (·.source.id == x)).map (·.target.id)).eraseDups := by
  have hwf : (ms.foldl (add layout) {}).WellFormed layout := Registry.wellFormed_empty.foldl_add ms
  obtain ⟨u, hu, rfl⟩ := List.mem_map.mp (mem_map_id_foldl_add.mpr hx)
  refine ⟨u, hwf.get?_of_mem hu, ?_⟩
  rw [hwf.outgoing u hu, connections_foldl_add, ← heads_map_connection]
  rfl

end Chart

/-- Reading a chart records, in order, the connection of every accepted line and nothing for a
rejected one; its node ids are the distinct ids the accepted lines name, source before target,
in order of first appearance; and the accepted lines alone, joined by line feeds, give the same
nodes and connections. Each line's record is made between nodes the line has just got or
created, so it never fails. -/
theorem read_accepted_lines (layout : Layout) (src : String) :
    (∀ (r : Registry) (s : Statement),
      (Chart.declare layout r s).record s.connection = .ok (Chart.add layout r s)) ∧
    (Chart.read layout src).connections =
      ((Chart.readings src).filterMap id).map
        (fun m => ⟨m.source.id, m.target.id, m.direction⟩) ∧
    (Chart.read layout src).nodes.map (·.id) =
      (((Chart.readings src).filterMap id).flatMap Statement.endpoints).eraseDups ∧
    (Chart.read layout (Chart.acceptedText src)).nodes = (Chart.read layout src).nodes ∧
    (Chart.read layout (Chart.acceptedText src)).connections =
      (Chart.read layout src).connections := by
  refine ⟨Chart.record_declare, ?_, ?_, ?_, ?_⟩
  · show (((Chart.readings src).filterMap id).foldl (Chart.add layout) {}).connections = _
    rw [Chart.connections_foldl_add]
    rfl
  · exact Chart.map_id_foldl_add (l := []) rfl _
  · exact congrArg Registry.nodes (Chart.registry_read_accepted layout src)
  · exact congrArg Registry.connections (Chart.registry_read_accepted layout src)

/-- Every node of a chart is made by the first accepted line that names it, and no later line
changes what it made. A node made as a source has the declared shape and label at the seed
abscissa. A node made as a target has the declared shape and label; it is at the seed target
abscissa when the source is new too, and otherwise at the source's abscissa moved by the fan
offset of the number of distinct children the earlier lines gave the source. -/
theorem node_of_first_mention (layout : Layout) (src : String) (v : Node)
    (hv : v ∈ (Chart.read layout src).nodes) :
    ∃ pre m post, (Chart.readings src).filterMap id = pre ++ m :: post ∧
      v.id ∉ pre.flatMap Statement.endpoints ∧
      if v.id = m.source.id then m.source.Makes layout.seedSourceX v
      else v.id = m.target.id ∧
        if m.source.id ∈ pre.flatMap Statement.endpoints then
          ∃ u ∈ (Chart.read layout src).nodes, u.id = m.source.id ∧
            m.target.Makes (u.x + layout.fanOffset
              ((pre.filter (·.source.id == m.source.id)).map (·.target.id)).eraseDups.length) v
        else m.target.Makes layout.seedTargetX v := by
  obtain ⟨ms, hms⟩ : ∃ ms, (Chart.readings src).filterMap id = ms := ⟨_, rfl⟩
  have hnodes : (Chart.read layout src).nodes = (ms.foldl (Chart.add layout) {}).nodes := by
    rw [← hms]
    rfl
  rw [hnodes] at hv ⊢
  rw [hms]
  have hwf : (ms.foldl (Chart.add layout) {}).WellFormed layout :=
    Registry.wellFormed_empty.foldl_add ms
  obtain ⟨pre, m, post, rfl, hm, hpre⟩ :=
    Chart.exists_first_mention (Chart.mem_map_id_foldl_add.mp (List.mem_map_of_mem hv))
  refine ⟨pre, m, post, rfl, hpre, ?_⟩
  have hsplit : (pre ++ m :: post).foldl (Chart.add layout) {} =
      post.foldl (Chart.add layout) (Chart.add layout (pre.foldl (Chart.add layout) {}) m) := by
    rw [List.foldl_append, List.foldl_cons]
  obtain ⟨u, hu, hmade⟩ := Chart.get?_add_of_get?_eq_none hm (Chart.get?_foldl_add_eq_none hpre)
  have hkept : v.seed = u.seed := by
    obtain ⟨u', hu', hseed⟩ := Chart.get?_foldl_add_of_get? hu post
    rw [← hsplit, hwf.get?_of_mem hv, Option.some.injEq] at hu'
    rw [hu', hseed]
  by_cases hs : v.id = m.source.id
  · rw [if_pos hs] at hmade ⊢
    exact hmade.of_seed hkept
  rw [if_neg hs] at hmade ⊢
  obtain ⟨ht, hmakes⟩ := hmade
  replace hmakes := hmakes.of_seed hkept
  refine ⟨ht, ?_⟩
  by_cases hsrc : m.source.id ∈ pre.flatMap Statement.endpoints
  · rw [if_pos hsrc]
    obtain ⟨u₀, hu₀, hout⟩ := Chart.get?_foldl_add_of_mem hsrc
    obtain ⟨u₁, hu₁, hseed⟩ := Chart.get?_foldl_add_of_get? hu₀ (m :: post)
    obtain ⟨hmem, hid⟩ := Registry.get?_eq_some hu₁
    have hx : u₁.x = u₀.x := by rw [← Node.x_seed, hseed, Node.x_seed]
    refine ⟨u₁, by rwa [List.foldl_append], hid, ?_⟩
    simp only [hu₀, Option.map_some, Layout.edgeX, hout] at hmakes
    rwa [hx]
  · rw [if_neg hsrc]
    simpa only [Chart.get?_foldl_add_eq_none hsrc, Option.map_none, Layout.edgeX] using hmakes

/-- Where the second child of a source comes from, in a chart of two lines. -/
theorem node_of_first_mention_second_child :
    ∃ v ∈ (Chart.read {} "A --> B - [b]\nA --> C - [c]").nodes, v.id = "C" ∧
      ∃ pre m post,
        (Chart.readings "A --> B - [b]\nA --> C - [c]").filterMap id = pre ++ m :: post ∧
        v.id ∉ pre.flatMap Statement.endpoints ∧
        if v.id = m.source.id then m.source.Makes ({} : Layout).seedSourceX v
        else v.id = m.target.id ∧
          if m.source.id ∈ pre.flatMap Statement.endpoints then
            ∃ u ∈ (Chart.read {} "A --> B - [b]\nA --> C - [c]").nodes, u.id = m.source.id ∧
              m.target.Makes (u.x + ({} : Layout).fanOffset
                ((pre.filter (·.source.id == m.source.id)).map (·.target.id)).eraseDups.length) v
          else m.target.Makes ({} : Layout).seedTargetX v := by
  obtain ⟨v, hv, hid⟩ :
      ∃ v ∈ (Chart.read {} "A --> B - [b]\nA --> C - [c]").nodes, v.id = "C" := by
    decide
  exact ⟨v, hv, hid, node_of_first_mention {} "A --> B - [b]\nA --> C - [c]" v hv⟩

end Flowchart
