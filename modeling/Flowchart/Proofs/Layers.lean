import Mathlib
import Flowchart.Proofs.Graph

/-!
# Topological layers

The layered search of `Digraph.layers` takes the vertices with no incoming edge first, then, round
after round, the heads whose last unprocessed incoming edge leaves the round before. Round `k`
holds exactly the vertices whose longest walk has `k` edges (`Digraph.roundSpec`): the count
kept for each vertex is, at every round, the number of its incoming edges whose tails have not
been taken yet, and a vertex is taken when that count runs out. A vertex on a cycle, or after
one, has walks of every length and is never taken; every other vertex is. So the search lists
every vertex exactly when there is no cycle, and then it lists them layer by layer, each edge
pointing from an earlier layer to a later one (`Digraph.topologicalOrder?_read`).
-/

namespace Flowchart

namespace Connection

/-- A connection of `cs` leads from `u` to `v`. -/
def Leads (cs : List Connection) (u v : String) : Prop := ∃ c ∈ cs, c.source = u ∧ c.target = v

/-- A walk of `n` connections of `cs` ends at `v`. -/
inductive WalkTo (cs : List Connection) : String → Nat → Prop
  | here (v : String) : WalkTo cs v 0
  | step {u v : String} {n : Nat} : WalkTo cs u n → Leads cs u v → WalkTo cs v (n + 1)

/-- The longest walk of `cs` that ends at `v` has `n` connections. -/
def Depth (cs : List Connection) (v : String) (n : Nat) : Prop :=
  WalkTo cs v n ∧ ∀ m, WalkTo cs v m → m ≤ n

/-- Some walk of one or more connections of `cs` comes back to where it started; a loop is
one. -/
def HasCycle (cs : List Connection) : Prop := ∃ v, Relation.TransGen (Leads cs) v v

variable {cs : List Connection}

/-! ## Walks and depths -/

theorem WalkTo.mono {cs' : List Connection} (h : ∀ u v, Leads cs u v → Leads cs' u v)
    {v : String} {n : Nat} (hw : WalkTo cs v n) : WalkTo cs' v n := by
  induction hw with
  | here v => exact .here v
  | step _ hl ih => exact .step ih (h _ _ hl)

theorem WalkTo.pred {v : String} {n : Nat} (h : WalkTo cs v (n + 1)) :
    ∃ u, WalkTo cs u n ∧ Leads cs u v := by
  cases h with
  | step hu hl => exact ⟨_, hu, hl⟩

theorem Depth.unique {v : String} {i j : Nat} (hi : Depth cs v i) (hj : Depth cs v j) : i = j :=
  Nat.le_antisymm (hj.2 i hi.1) (hi.2 j hj.1)

theorem exists_depth_of_bounded {v : String} (B : Nat) (hB : ∀ m, WalkTo cs v m → m ≤ B) :
    ∃ k, Depth cs v k := by
  induction B with
  | zero => exact ⟨0, .here v, hB⟩
  | succ B ih =>
      by_cases hwalk : WalkTo cs v (B + 1)
      · exact ⟨B + 1, hwalk, hB⟩
      · apply ih
        intro m hm
        have hle := hB m hm
        have hne : m ≠ B + 1 := fun h => hwalk (h ▸ hm)
        omega

theorem walkTo_le_of_leads {u v : String} {k : Nat} (hv : ∀ m, WalkTo cs v m → m ≤ k + 1)
    (huv : Leads cs u v) : ∀ m, WalkTo cs u m → m ≤ k := by
  intro m hm
  have := hv (m + 1) (.step hm huv)
  omega

theorem depth_succ_iff {v : String} {k : Nat} :
    Depth cs v (k + 1) ↔
      (∃ u, Leads cs u v ∧ Depth cs u k) ∧ ∀ u, Leads cs u v → ∃ j ≤ k, Depth cs u j := by
  constructor
  · rintro ⟨hwalk, hlongest⟩
    have htails : ∀ u, Leads cs u v → ∃ j ≤ k, Depth cs u j := by
      intro u huv
      have hbound := walkTo_le_of_leads hlongest huv
      obtain ⟨j, hj⟩ := exists_depth_of_bounded k hbound
      exact ⟨j, hbound j hj.1, hj⟩
    obtain ⟨u, hu, huv⟩ := hwalk.pred
    obtain ⟨j, hjk, hj⟩ := htails u huv
    have hkj : k ≤ j := hj.2 k hu
    refine ⟨⟨u, huv, ?_⟩, htails⟩
    rwa [show k = j by omega]
  · rintro ⟨⟨u, huv, hu⟩, htails⟩
    refine ⟨.step hu.1 huv, fun m hm => ?_⟩
    cases m with
    | zero => omega
    | succ m =>
        obtain ⟨u', hu', hu'v⟩ := hm.pred
        obtain ⟨j, hjk, hj⟩ := htails u' hu'v
        have := hj.2 m hu'
        omega

theorem depth_zero_iff {v : String} : Depth cs v 0 ↔ ∀ u, ¬ Leads cs u v := by
  constructor
  · intro hv u huv
    have := hv.2 1 (.step (.here u) huv)
    omega
  · intro hnone
    refine ⟨.here v, fun m hm => ?_⟩
    cases m with
    | zero => exact Nat.le_refl 0
    | succ m =>
        obtain ⟨u, -, huv⟩ := hm.pred
        exact absurd huv (hnone u)

theorem exists_depth_of_lt {v : String} {k : Nat} (hv : Depth cs v k) :
    ∀ j < k, ∃ u, (∃ w, Leads cs u w) ∧ Depth cs u j := by
  induction k generalizing v with
  | zero => intro j hj; omega
  | succ k ih =>
      intro j hj
      obtain ⟨⟨u, huv, hu⟩, -⟩ := depth_succ_iff.mp hv
      rcases Nat.lt_succ_iff_lt_or_eq.mp hj with hlt | rfl
      · exact ih hu j hlt
      · exact ⟨u, ⟨v, huv⟩, hu⟩

theorem exists_bound_of_depths (l : List String) (h : ∀ u ∈ l, ∃ j, Depth cs u j) :
    ∃ B, ∀ u ∈ l, ∀ m, WalkTo cs u m → m ≤ B := by
  induction l with
  | nil => exact ⟨0, fun u hu => absurd hu List.not_mem_nil⟩
  | cons u l ih =>
      obtain ⟨j, hj⟩ := h u List.mem_cons_self
      obtain ⟨B, hB⟩ := ih fun w hw => h w (List.mem_cons_of_mem u hw)
      refine ⟨max j B, fun w hw m hm => ?_⟩
      rcases List.mem_cons.mp hw with rfl | hw
      · exact le_max_of_le_left (hj.2 m hm)
      · exact le_max_of_le_right (hB w hw m hm)

theorem exists_depth_of_tails {v : String}
    (htails : ∀ u, Leads cs u v → ∃ j, Depth cs u j) : ∃ k, Depth cs v k := by
  have hmem : ∀ u, Leads cs u v → u ∈ (cs.filter (·.target == v)).map (·.source) := by
    rintro u ⟨c, hc, rfl, hcv⟩
    exact List.mem_map.mpr ⟨c, List.mem_filter.mpr ⟨hc, by simpa using hcv⟩, rfl⟩
  obtain ⟨B, hB⟩ := exists_bound_of_depths ((cs.filter (·.target == v)).map (·.source))
    fun u hu => by
      obtain ⟨c, hc, rfl⟩ := List.mem_map.mp hu
      obtain ⟨hc, hcv⟩ := List.mem_filter.mp hc
      exact htails c.source ⟨c, hc, rfl, by simpa using hcv⟩
  apply exists_depth_of_bounded (B + 1)
  intro m hm
  cases m with
  | zero => omega
  | succ m =>
      obtain ⟨u, hu, huv⟩ := hm.pred
      have := hB u (hmem u huv) m hu
      omega

/-! ## Cycles -/

theorem exists_longer_of_transGen {u v : String} (h : Relation.TransGen (Leads cs) u v) {m : Nat}
    (hu : WalkTo cs u m) : ∃ m' > m, WalkTo cs v m' := by
  induction h with
  | single huv => exact ⟨m + 1, by omega, .step hu huv⟩
  | tail _ hwv ih =>
      obtain ⟨m', hm', hw⟩ := ih
      exact ⟨m' + 1, by omega, .step hw hwv⟩

theorem not_depth_of_transGen {v : String} (h : Relation.TransGen (Leads cs) v v) (k : Nat) :
    ¬ Depth cs v k := by
  intro hv
  obtain ⟨m', hm', hw⟩ := exists_longer_of_transGen h hv.1
  have := hv.2 m' hw
  omega

theorem hasCycle_of_forall_tail (S : List String) (hS : S ≠ [])
    (h : ∀ v ∈ S, ∃ u ∈ S, Leads cs u v) : HasCycle cs := by
  by_contra hno
  have hirrefl : Std.Irrefl fun a b : {x // x ∈ S} => Relation.TransGen (Leads cs) a.1 b.1 :=
    ⟨fun a ha => hno ⟨a.1, ha⟩⟩
  have htrans : IsTrans {x // x ∈ S} fun a b => Relation.TransGen (Leads cs) a.1 b.1 :=
    ⟨fun _ _ _ hab hbc => hab.trans hbc⟩
  have hwf := Finite.wellFounded_of_trans_of_irrefl
    fun a b : {x // x ∈ S} => Relation.TransGen (Leads cs) a.1 b.1
  obtain ⟨v, hv⟩ := List.exists_mem_of_ne_nil S hS
  obtain ⟨m, -, hmin⟩ := hwf.has_min Set.univ ⟨⟨v, hv⟩, trivial⟩
  obtain ⟨u, hu, hum⟩ := h m.1 m.2
  exact hmin ⟨u, hu⟩ trivial (.single hum)

theorem leads_firstOfEachPair {u v : String} :
    Leads (Digraph.firstOfEachPair cs) u v ↔ Leads cs u v := by
  have hpairs := Digraph.map_ends_firstOfEachPair cs
  constructor
  · rintro ⟨c, hc, rfl, rfl⟩
    have hmem : c.ends ∈ cs.map ends := by
      rw [← List.mem_eraseDups, ← hpairs]
      exact List.mem_map_of_mem hc
    obtain ⟨d, hd, hde⟩ := List.mem_map.mp hmem
    exact ⟨d, hd, congrArg Prod.fst hde, congrArg Prod.snd hde⟩
  · rintro ⟨c, hc, rfl, rfl⟩
    have hmem : c.ends ∈ (Digraph.firstOfEachPair cs).map ends := by
      rw [hpairs, List.mem_eraseDups]
      exact List.mem_map_of_mem hc
    obtain ⟨d, hd, hde⟩ := List.mem_map.mp hmem
    exact ⟨d, hd, congrArg Prod.fst hde, congrArg Prod.snd hde⟩

end Connection

namespace Digraph

open Connection

/-- The vertices of `g` are distinct, and every edge joins two of them. -/
structure Proper (g : Digraph) : Prop where
  nodup : g.vertices.Nodup
  ends : ∀ e ∈ g.edges, e.source ∈ g.vertices ∧ e.target ∈ g.vertices

/-! ## One round of the search -/

def takeHead (acc : List String × (String → Nat)) (head : String) :
    List String × (String → Nat) :=
  let counts := lower acc.2 head
  (if counts head == 0 then acc.1 ++ [head] else acc.1, counts)

theorem nextLayer_eq_foldl (g : Digraph) (layer : List String) (counts : String → Nat) :
    g.nextLayer layer counts = (layer.flatMap g.successors).foldl takeHead ([], counts) :=
  rfl

theorem foldl_takeHead (H next : List String) (c : String → Nat) (hc : ∀ w, H.count w ≤ c w) :
    ∃ X, H.foldl takeHead (next, c) = (next ++ X, fun w => c w - H.count w) ∧ X.Nodup ∧
      ∀ w, w ∈ X ↔ w ∈ H ∧ c w = H.count w := by
  induction H generalizing next c with
  | nil => exact ⟨[], by simp, List.nodup_nil, by simp⟩
  | cons h H ih =>
      have hlower : ∀ w, lower c h w = if w = h then c w - 1 else c w := by
        intro w
        simp [lower]
      have hch : H.count h + 1 ≤ c h := by
        have := hc h
        rwa [List.count_cons_self] at this
      have hc' : ∀ w, H.count w ≤ lower c h w := by
        intro w
        rw [hlower]
        split
        · rename_i hw
          subst hw
          omega
        · rename_i hw
          have := hc w
          rwa [List.count_cons_of_ne (Ne.symm hw)] at this
      obtain ⟨X, hfold, hnodup, hmem⟩ :=
        ih (if lower c h h == 0 then next ++ [h] else next) (lower c h) hc'
      have hlast : h ∈ X → lower c h h ≠ 0 := by
        intro hX
        have := (hmem h).mp hX
        have := List.count_pos_iff.mpr this.1
        omega
      refine ⟨(if lower c h h = 0 then [h] else []) ++ X, ?_, ?_, ?_⟩
      · rw [List.foldl_cons, takeHead, hfold]
        congr 1
        · by_cases h0 : lower c h h = 0 <;> simp [h0]
        · funext w
          rw [hlower, List.count_cons]
          by_cases hw : w = h
          · subst hw
            simp only [if_true, beq_self_eq_true]
            omega
          · simp [hw, Ne.symm hw]
      · by_cases h0 : lower c h h = 0
        · rw [if_pos h0, List.singleton_append, List.nodup_cons]
          exact ⟨fun hX => hlast hX h0, hnodup⟩
        · rw [if_neg h0, List.nil_append]
          exact hnodup
      · intro w
        rw [List.mem_append, hmem, List.count_cons, List.mem_cons, hlower]
        by_cases hw : w = h
        · subst hw
          have hl : lower c w w = c w - 1 := by rw [hlower, if_pos rfl]
          rw [hl] at hlast ⊢
          by_cases hin : w ∈ H
          · have := List.count_pos_iff.mpr hin
            by_cases h0 : c w - 1 = 0 <;> simp [h0, hin] <;> omega
          · have := List.count_eq_zero_of_not_mem hin
            by_cases h0 : c w - 1 = 0 <;> simp [h0, hin] <;> omega
        · simp [hw, Ne.symm hw, hlower]

/-! ## Counting edges -/

variable {g : Digraph}

private theorem countP_or_of_disjoint {l : List Connection} {p q : Connection → Bool}
    (h : ∀ x ∈ l, ¬ (p x = true ∧ q x = true)) :
    l.countP (fun x => p x || q x) = l.countP p + l.countP q := by
  induction l with
  | nil => rfl
  | cons x l ih =>
      simp only [List.countP_cons]
      rw [ih fun y hy => h y (List.mem_cons_of_mem x hy)]
      have hx := h x List.mem_cons_self
      cases hp : p x <;> cases hq : q x <;> simp_all <;> omega

theorem mem_successors {u w : String} : w ∈ g.successors u ↔ Leads g.edges u w := by
  simp only [successors, List.mem_map, List.mem_filter, beq_iff_eq, Leads]
  constructor
  · rintro ⟨e, ⟨he, rfl⟩, rfl⟩
    exact ⟨e, he, rfl, rfl⟩
  · rintro ⟨e, he, rfl, rfl⟩
    exact ⟨e, ⟨he, rfl⟩, rfl⟩

theorem count_successors (u w : String) :
    (g.successors u).count w = g.edges.countP fun e => e.target == w && e.source == u := by
  rw [successors, List.count_eq_countP, List.countP_map, List.countP_filter]
  rfl

theorem count_flatMap_successors {L : List String} (hL : L.Nodup) (w : String) :
    (L.flatMap g.successors).count w =
      g.edges.countP fun e => e.target == w && decide (e.source ∈ L) := by
  induction L with
  | nil => simp
  | cons u L ih =>
      obtain ⟨hu, hL⟩ := List.nodup_cons.mp hL
      rw [List.flatMap_cons, List.count_append, count_successors, ih hL,
        ← countP_or_of_disjoint]
      · apply List.countP_congr
        intro e _
        simp only [Bool.or_eq_true, Bool.and_eq_true, beq_iff_eq, decide_eq_true_eq,
          List.mem_cons]
        tauto
      · rintro e - ⟨h₁, h₂⟩
        simp only [Bool.and_eq_true, beq_iff_eq, decide_eq_true_eq] at h₁ h₂
        exact hu (h₁.2 ▸ h₂.2)

/-- The number of edges into `w` whose tails are not in `done`. -/
def pending (g : Digraph) (done : List String) (w : String) : Nat :=
  g.edges.countP fun e => e.target == w && !decide (e.source ∈ done)

theorem pending_append {done L : List String}
    (hdisj : ∀ e ∈ g.edges, e.source ∈ L → e.source ∉ done) (w : String) :
    g.pending done w =
      (g.edges.countP fun e => e.target == w && decide (e.source ∈ L)) + g.pending (done ++ L) w := by
  unfold pending
  rw [← countP_or_of_disjoint]
  · apply List.countP_congr
    intro e he
    have := hdisj e he
    simp only [Bool.or_eq_true, Bool.and_eq_true, beq_iff_eq, decide_eq_true_eq,
      Bool.not_eq_true', decide_eq_false_iff_not, List.mem_append]
    tauto
  · rintro e - ⟨h₁, h₂⟩
    simp only [Bool.and_eq_true, Bool.not_eq_true', decide_eq_true_eq, decide_eq_false_iff_not,
      List.mem_append] at h₁ h₂
    exact h₂.2 (.inr h₁.2)

theorem pending_eq_zero_iff {done : List String} {w : String} :
    g.pending done w = 0 ↔ ∀ u, Leads g.edges u w → u ∈ done := by
  simp only [pending, List.countP_eq_zero, Bool.and_eq_true, beq_iff_eq, Bool.not_eq_true',
    decide_eq_false_iff_not, not_and, not_not, Leads]
  constructor
  · rintro h u ⟨e, he, rfl, hw⟩
    exact h e he hw
  · intro h e he hw
    exact h e.source ⟨e, he, rfl, hw⟩

/-! ## The rounds of the search -/

/-- The layer of round `k` of the search, with the counts it starts from. -/
def round (g : Digraph) : Nat → List String × (String → Nat)
  | 0 => (g.sources, g.inDegree)
  | k + 1 => g.nextLayer (g.round k).1 (g.round k).2

def taken (g : Digraph) (k : Nat) : List String :=
  ((List.range k).map fun j => (g.round j).1).flatten

theorem taken_succ (k : Nat) : g.taken (k + 1) = g.taken k ++ (g.round k).1 := by
  simp [taken, List.range_succ]

/-- What holds at round `k`: its layer holds, once each, the vertices of depth `k`; the vertices
taken before are those of smaller depth; and each count is the number of incoming edges whose
tails have not been taken. -/
structure RoundSpec (g : Digraph) (k : Nat) : Prop where
  nodup : (g.round k).1.Nodup
  mem : ∀ v, v ∈ (g.round k).1 ↔ v ∈ g.vertices ∧ Depth g.edges v k
  taken : ∀ v, v ∈ g.taken k ↔ v ∈ g.vertices ∧ ∃ j < k, Depth g.edges v j
  counts : ∀ w, (g.round k).2 w = g.pending (g.taken k) w

theorem Proper.source_mem (hg : g.Proper) {u v : String} (h : Leads g.edges u v) :
    u ∈ g.vertices := by
  obtain ⟨e, he, rfl, -⟩ := h
  exact (hg.ends e he).1

theorem Proper.target_mem (hg : g.Proper) {u v : String} (h : Leads g.edges u v) :
    v ∈ g.vertices := by
  obtain ⟨e, he, -, rfl⟩ := h
  exact (hg.ends e he).2

theorem roundSpec_zero (hg : g.Proper) : g.RoundSpec 0 where
  nodup := hg.nodup.filter _
  mem v := by
    have hin : g.inDegree v = 0 ↔ ∀ u, ¬ Leads g.edges u v := by
      simp only [inDegree, List.length_eq_zero_iff, List.filter_eq_nil_iff, beq_iff_eq, Leads]
      constructor
      · rintro h u ⟨e, he, rfl, hv⟩
        exact h e he hv
      · intro h e he hv
        exact h e.source ⟨e, he, rfl, hv⟩
    simp only [round, sources, List.mem_filter, beq_iff_eq, hin, depth_zero_iff]
  taken v := by simp [taken]
  counts w := by simp [round, pending, inDegree, taken, List.countP_eq_length_filter]

theorem RoundSpec.succ (hg : g.Proper) {k : Nat} (h : g.RoundSpec k) : g.RoundSpec (k + 1) := by
  have hdisj : ∀ e ∈ g.edges, e.source ∈ (g.round k).1 → e.source ∉ g.taken k := by
    intro e _ hL ht
    obtain ⟨-, hd⟩ := (h.mem _).mp hL
    obtain ⟨-, j, hj, hdj⟩ := (h.taken _).mp ht
    have := hd.unique hdj
    omega
  have hcount := count_flatMap_successors (g := g) h.nodup
  have hsplit := g.pending_append hdisj
  obtain ⟨X, hfold, hnodup, hmem⟩ :=
    foldl_takeHead ((g.round k).1.flatMap g.successors) [] (g.round k).2
      fun w => by rw [hcount, h.counts, hsplit w]; omega
  have hround : g.round (k + 1) =
      (X, fun w => (g.round k).2 w - ((g.round k).1.flatMap g.successors).count w) := by
    rw [round, nextLayer_eq_foldl, hfold, List.nil_append]
  have htaken : ∀ v, v ∈ g.taken (k + 1) ↔ v ∈ g.vertices ∧ ∃ j < k + 1, Depth g.edges v j := by
    intro v
    rw [taken_succ, List.mem_append, h.taken, h.mem]
    constructor
    · rintro (⟨hv, j, hj, hd⟩ | ⟨hv, hd⟩)
      · exact ⟨hv, j, by omega, hd⟩
      · exact ⟨hv, k, by omega, hd⟩
    · rintro ⟨hv, j, hj, hd⟩
      rcases Nat.lt_succ_iff_lt_or_eq.mp hj with hj | rfl
      · exact .inl ⟨hv, j, hj, hd⟩
      · exact .inr ⟨hv, hd⟩
  refine ⟨?_, fun w => ?_, htaken, fun w => ?_⟩
  · rw [hround]
    exact hnodup
  · rw [hround, hmem w, h.counts, hcount, hsplit w, List.mem_flatMap]
    have hleft : g.pending (g.taken k ++ (g.round k).1) w = 0 ↔
        ∀ u, Leads g.edges u w → ∃ j ≤ k, Depth g.edges u j := by
      rw [pending_eq_zero_iff, ← taken_succ]
      constructor
      · intro hall u hu
        obtain ⟨-, j, hj, hd⟩ := (htaken u).mp (hall u hu)
        exact ⟨j, by omega, hd⟩
      · intro hall u hu
        obtain ⟨j, hj, hd⟩ := hall u hu
        exact (htaken u).mpr ⟨hg.source_mem hu, j, by omega, hd⟩
    have hfrom : (∃ u ∈ (g.round k).1, w ∈ g.successors u) ↔
        ∃ u, Leads g.edges u w ∧ Depth g.edges u k := by
      simp only [mem_successors, h.mem]
      constructor
      · rintro ⟨u, ⟨-, hd⟩, hu⟩
        exact ⟨u, hu, hd⟩
      · rintro ⟨u, hu, hd⟩
        exact ⟨u, ⟨hg.source_mem hu, hd⟩, hu⟩
    rw [Nat.add_eq_left, hleft, hfrom, ← depth_succ_iff]
    constructor
    · intro hd
      obtain ⟨⟨u, hu, -⟩, -⟩ := depth_succ_iff.mp hd
      exact ⟨hg.target_mem hu, hd⟩
    · exact And.right
  · rw [hround]
    show (g.round k).2 w - _ = _
    rw [h.counts, hcount, hsplit w, taken_succ]
    omega

theorem roundSpec (hg : g.Proper) (k : Nat) : g.RoundSpec k := by
  induction k with
  | zero => exact roundSpec_zero hg
  | succ k ih => exact ih.succ hg

/-! ## The layers -/

theorem layersFrom_round (fuel k : Nat) :
    g.layersFrom fuel (g.round k).1 (g.round k).2 =
      ((List.range fuel).map fun i => (g.round (k + i)).1).takeWhile (!·.isEmpty) := by
  induction fuel generalizing k with
  | zero => rfl
  | succ fuel ih =>
      rw [List.range_succ_eq_map, List.map_cons, List.map_map, List.takeWhile_cons, Nat.add_zero]
      have hshift : ((fun i => (g.round (k + i)).1) ∘ Nat.succ) = fun i => (g.round (k + 1 + i)).1 := by
        funext i
        rw [Function.comp_apply, Nat.succ_eq_add_one, Nat.add_comm i 1, Nat.add_assoc]
      rw [hshift, ← ih (k + 1)]
      have hnext : g.round (k + 1) = g.nextLayer (g.round k).1 (g.round k).2 := rfl
      cases hk : (g.round k).1 with
      | nil => simp [layersFrom]
      | cons a as =>
          rw [hk] at hnext
          rw [hnext]
          simp [layersFrom]

theorem layers_eq (g : Digraph) :
    g.layers = ((List.range (g.vertices.length + 1)).map fun k => (g.round k).1).takeWhile
      (!·.isEmpty) := by
  have := g.layersFrom_round (g.vertices.length + 1) 0
  simp only [Nat.zero_add] at this
  exact this

theorem getElem?_layers {i : Nat} {l : List String} (h : g.layers[i]? = some l) :
    l = (g.round i).1 := by
  rw [layers_eq] at h
  obtain ⟨t, ht⟩ := List.takeWhile_prefix (!·.isEmpty)
    (l := (List.range (g.vertices.length + 1)).map fun k => (g.round k).1)
  have hi : i < (((List.range (g.vertices.length + 1)).map fun k => (g.round k).1).takeWhile
      (!·.isEmpty)).length := (List.getElem?_eq_some_iff.mp h).1
  have hR := congrArg (·[i]?) ht
  simp only [List.getElem?_append_left hi, h, List.getElem?_map] at hR
  obtain ⟨j, hj, hji⟩ := Option.map_eq_some_iff.mp hR.symm
  rw [← hji, (List.getElem?_eq_some_iff.mp hj).2.symm, List.getElem_range]

theorem disjoint_round (hg : g.Proper) {i j : Nat} (hij : i ≠ j) :
    List.Disjoint (g.round i).1 (g.round j).1 := by
  intro v hi hj
  obtain ⟨-, hdi⟩ := ((roundSpec hg i).mem v).mp hi
  obtain ⟨-, hdj⟩ := ((roundSpec hg j).mem v).mp hj
  exact hij (hdi.unique hdj)

theorem pairwise_disjoint_rounds (hg : g.Proper) (m : Nat) :
    ((List.range m).map fun k => (g.round k).1).Pairwise List.Disjoint :=
  List.pairwise_map.mpr (List.pairwise_lt_range.imp fun hij => disjoint_round hg (Nat.ne_of_lt hij))

theorem nodup_flatten_layers (hg : g.Proper) : g.layers.flatten.Nodup := by
  refine List.nodup_flatten.mpr ⟨fun l hl => ?_, ?_⟩
  · obtain ⟨i, hi⟩ := List.mem_iff_getElem?.mp hl
    rw [getElem?_layers hi]
    exact (roundSpec hg i).nodup
  · rw [layers_eq]
    exact (pairwise_disjoint_rounds hg _).sublist (List.takeWhile_prefix _).sublist

/-- A vertex of depth `k` is in the `k`-th layer: the rounds up to `k` are not empty, and there
are more vertices than such rounds, so the search reaches round `k`. -/
theorem getElem?_layers_of_depth (hg : g.Proper) {v : String} {k : Nat} (hv : v ∈ g.vertices)
    (hd : Depth g.edges v k) : g.layers[k]? = some (g.round k).1 := by
  have hne : ∀ j < k + 1, (g.round j).1 ≠ [] := by
    intro j hj
    rcases Nat.lt_succ_iff_lt_or_eq.mp hj with hj | rfl
    · obtain ⟨u, ⟨w, huw⟩, hu⟩ := exists_depth_of_lt hd j hj
      exact List.ne_nil_of_mem (((roundSpec hg j).mem u).mpr ⟨hg.source_mem huw, hu⟩)
    · exact List.ne_nil_of_mem (((roundSpec hg j).mem v).mpr ⟨hv, hd⟩)
  have hbound : k < g.vertices.length := by
    have hnodup : (g.taken (k + 1)).Nodup :=
      List.nodup_flatten.mpr ⟨fun l hl => by
        obtain ⟨j, -, rfl⟩ := List.mem_map.mp hl
        exact (roundSpec hg j).nodup, pairwise_disjoint_rounds hg _⟩
    have hsub : g.taken (k + 1) ⊆ g.vertices := fun u hu => (((roundSpec hg _).taken u).mp hu).1
    have hlen : k + 1 ≤ (g.taken (k + 1)).length := by
      rw [taken, List.length_flatten, List.map_map]
      have := List.length_le_sum_of_one_le
        ((List.range (k + 1)).map (List.length ∘ fun j => (g.round j).1)) (by
          intro n hn
          obtain ⟨j, hj, rfl⟩ := List.mem_map.mp hn
          exact List.length_pos_iff.mpr (hne j (List.mem_range.mp hj)))
      simpa using this
    have := hnodup.length_le_of_subset hsub
    omega
  have hsplit : List.range (g.vertices.length + 1) =
      List.range (k + 1) ++ (List.range (g.vertices.length - k)).map (k + 1 + ·) := by
    rw [← List.range_add]
    congr 1
    omega
  have hfirst : ∀ l ∈ (List.range (k + 1)).map (fun j => (g.round j).1), (!l.isEmpty) = true := by
    intro l hl
    obtain ⟨j, hj, rfl⟩ := List.mem_map.mp hl
    simpa using hne j (List.mem_range.mp hj)
  rw [layers_eq, hsplit, List.map_append, List.takeWhile_append_of_pos hfirst,
    List.getElem?_append_left (by simp), List.getElem?_map, List.getElem?_range (by omega)]
  rfl

theorem mem_flatten_layers (hg : g.Proper) {v : String} :
    v ∈ g.layers.flatten ↔ v ∈ g.vertices ∧ ∃ k, Depth g.edges v k := by
  constructor
  · intro hv
    obtain ⟨l, hl, hvl⟩ := List.mem_flatten.mp hv
    obtain ⟨i, hi⟩ := List.mem_iff_getElem?.mp hl
    rw [getElem?_layers hi] at hvl
    obtain ⟨hv, hd⟩ := ((roundSpec hg i).mem v).mp hvl
    exact ⟨hv, i, hd⟩
  · rintro ⟨hv, k, hd⟩
    exact List.mem_flatten.mpr ⟨_, List.mem_of_getElem? (getElem?_layers_of_depth hg hv hd),
      ((roundSpec hg k).mem v).mpr ⟨hv, hd⟩⟩

/-! ## The topological order -/

theorem length_flatten_layers_eq_iff (hg : g.Proper) :
    g.layers.flatten.length = g.vertices.length ↔ ∀ v ∈ g.vertices, ∃ k, Depth g.edges v k := by
  have hsub : g.layers.flatten ⊆ g.vertices := fun v hv => ((mem_flatten_layers hg).mp hv).1
  have hsubperm := (nodup_flatten_layers hg).subperm hsub
  constructor
  · intro hlen v hv
    have hperm := hsubperm.perm_of_length_le (Nat.le_of_eq hlen.symm)
    exact ((mem_flatten_layers hg).mp (hperm.mem_iff.mpr hv)).2
  · intro hall
    have hsup : g.vertices ⊆ g.layers.flatten := fun v hv =>
      (mem_flatten_layers hg).mpr ⟨hv, hall v hv⟩
    exact (hsubperm.antisymm (hg.nodup.subperm hsup)).length_eq

/-- Some vertex has no depth exactly when there is a cycle: a vertex on a cycle has walks of every
length, and a vertex without a depth has a tail without one. -/
theorem exists_no_depth_iff (hg : g.Proper) :
    (∃ v ∈ g.vertices, ∀ k, ¬ Depth g.edges v k) ↔ HasCycle g.edges := by
  classical
  constructor
  · rintro ⟨v, hv, hnone⟩
    let S := g.vertices.filter fun w => decide (∀ k, ¬ Depth g.edges w k)
    have hmem : ∀ w, w ∈ S ↔ w ∈ g.vertices ∧ ∀ k, ¬ Depth g.edges w k := by
      intro w
      simp [S]
    apply hasCycle_of_forall_tail S (List.ne_nil_of_mem ((hmem v).mpr ⟨hv, hnone⟩))
    intro w hw
    by_contra hno
    have htails : ∀ u, Leads g.edges u w → ∃ j, Depth g.edges u j := by
      intro u hu
      by_contra hnd
      exact hno ⟨u, (hmem u).mpr ⟨hg.source_mem hu, fun j hj => hnd ⟨j, hj⟩⟩, hu⟩
    obtain ⟨k, hk⟩ := exists_depth_of_tails htails
    exact ((hmem w).mp hw).2 k hk
  · rintro ⟨v, hv⟩
    have hvert : v ∈ g.vertices := by
      cases hv with
      | single h => exact hg.target_mem h
      | tail _ h => exact hg.target_mem h
    exact ⟨v, hvert, not_depth_of_transGen hv⟩

theorem topologicalOrder?_eq (g : Digraph) :
    g.topologicalOrder? =
      if g.layers.flatten.length = g.vertices.length then some g.layers.flatten else none := by
  simp [topologicalOrder?]

theorem topologicalOrder?_eq_none_iff (hg : g.Proper) :
    g.topologicalOrder? = none ↔ HasCycle g.edges := by
  rw [topologicalOrder?_eq, ← exists_no_depth_iff hg]
  split
  · rename_i hlen
    have hall := (length_flatten_layers_eq_iff hg).mp hlen
    simp only [reduceCtorEq, false_iff, not_exists, not_and, not_forall, not_not]
    exact hall
  · rename_i hlen
    simp only [true_iff]
    by_contra hall
    push Not at hall
    exact hlen ((length_flatten_layers_eq_iff hg).mpr hall)

/-- `order` lists the vertices of `g` once each, as the layers of the search one after the
other; the `i`-th layer holds the vertices whose longest walk along `cs` has `i` connections;
and every connection of `cs` leads from a vertex listed earlier to one listed later. -/
structure LayeredBy (g : Digraph) (cs : List Connection) (order : List String) : Prop where
  nodup : order.Nodup
  mem : ∀ v, v ∈ order ↔ v ∈ g.vertices
  flatten : order = g.layers.flatten
  layer : ∀ (i : Nat) (l : List String), g.layers[i]? = some l →
    ∀ v, v ∈ l ↔ v ∈ g.vertices ∧ Depth cs v i
  forward : ∀ c ∈ cs, ∃ pre post, order = pre ++ post ∧ c.source ∈ pre ∧ c.target ∈ post

theorem depth_congr {cs cs' : List Connection} (h : ∀ u v, Leads cs u v ↔ Leads cs' u v)
    {v : String} {k : Nat} : Depth cs v k ↔ Depth cs' v k := by
  have hwalk : ∀ m, WalkTo cs v m ↔ WalkTo cs' v m := fun m =>
    ⟨WalkTo.mono fun u w => (h u w).mp, WalkTo.mono fun u w => (h u w).mpr⟩
  simp only [Depth, hwalk]

theorem exists_append_of_leads (hg : g.Proper) {u v : String} (huv : Leads g.edges u v)
    (hu : ∃ i, Depth g.edges u i) (hv : ∃ j, Depth g.edges v j) :
    ∃ pre post, g.layers.flatten = pre ++ post ∧ u ∈ pre ∧ v ∈ post := by
  obtain ⟨i, hi⟩ := hu
  obtain ⟨j, hj⟩ := hv
  have hij : i < j := hj.2 (i + 1) (.step hi.1 huv)
  have hui := getElem?_layers_of_depth hg (hg.source_mem huv) hi
  have hvj := getElem?_layers_of_depth hg (hg.target_mem huv) hj
  refine ⟨(g.layers.take j).flatten, (g.layers.drop j).flatten, ?_, ?_, ?_⟩
  · rw [← List.flatten_append, List.take_append_drop]
  · have hmem : (g.round i).1 ∈ g.layers.take j := by
      apply List.mem_of_getElem? (i := i)
      rw [List.getElem?_take, if_pos hij, hui]
    exact List.mem_flatten.mpr ⟨_, hmem, ((roundSpec hg i).mem u).mpr ⟨hg.source_mem huv, hi⟩⟩
  · have hmem : (g.round j).1 ∈ g.layers.drop j := by
      apply List.mem_of_getElem? (i := 0)
      rw [List.getElem?_drop, Nat.add_zero, hvj]
    exact List.mem_flatten.mpr ⟨_, hmem, ((roundSpec hg j).mem v).mpr ⟨hg.target_mem huv, hj⟩⟩

theorem layeredBy_of_topologicalOrder? (hg : g.Proper) {cs : List Connection}
    (hcs : ∀ u v, Leads cs u v ↔ Leads g.edges u v) {order : List String}
    (h : g.topologicalOrder? = some order) : g.LayeredBy cs order := by
  rw [topologicalOrder?_eq] at h
  split at h
  · rename_i hlen
    cases h
    have hall := (length_flatten_layers_eq_iff hg).mp hlen
    refine ⟨nodup_flatten_layers hg, fun v => ?_, rfl, fun i l hl v => ?_, fun c hc => ?_⟩
    · rw [mem_flatten_layers hg]
      exact ⟨And.left, fun hv => ⟨hv, hall v hv⟩⟩
    · rw [getElem?_layers hl, (roundSpec hg i).mem, depth_congr hcs]
    · have huv : Leads g.edges c.source c.target := (hcs _ _).mp ⟨c, hc, rfl, rfl⟩
      exact exists_append_of_leads hg huv (hall _ (hg.source_mem huv))
        (hall _ (hg.target_mem huv))
  · cases h

/-! ## Charts -/

theorem hasCycle_firstOfEachPair (cs : List Connection) :
    HasCycle (firstOfEachPair cs) ↔ HasCycle cs := by
  constructor
  · rintro ⟨v, hv⟩
    exact ⟨v, Relation.TransGen.mono (fun _ _ h => leads_firstOfEachPair.mp h) v v hv⟩
  · rintro ⟨v, hv⟩
    exact ⟨v, Relation.TransGen.mono (fun _ _ h => leads_firstOfEachPair.mpr h) v v hv⟩

theorem proper_read (layout : Layout) (src : String) :
    (ofChart (Chart.read layout src)).Proper := by
  have hwf := Chart.registry_wellFormed layout src
  have hpresents := presents_of_wellFormed hwf
  refine ⟨?_, hpresents.edge_ends⟩
  rw [hpresents.vertices]
  exact hwf.nodup

theorem leads_ofChart_read (layout : Layout) (src : String) (u v : String) :
    Leads (Chart.read layout src).connections u v ↔
      Leads (ofChart (Chart.read layout src)).edges u v := by
  rw [ofChart_eq (Chart.registry_wellFormed layout src)]
  exact leads_firstOfEachPair.symm

theorem topologicalOrder?_read_eq_none_iff (layout : Layout) (src : String) :
    (ofChart (Chart.read layout src)).topologicalOrder? = none ↔
      HasCycle (Chart.read layout src).connections := by
  rw [topologicalOrder?_eq_none_iff (proper_read layout src),
    ofChart_eq (Chart.registry_wellFormed layout src)]
  exact hasCycle_firstOfEachPair _

theorem layeredBy_read (layout : Layout) (src : String) {order : List String}
    (h : (ofChart (Chart.read layout src)).topologicalOrder? = some order) :
    (ofChart (Chart.read layout src)).LayeredBy (Chart.read layout src).connections order :=
  layeredBy_of_topologicalOrder? (proper_read layout src) (leads_ofChart_read layout src) h

/-- The graph of a chart read from a text has no topological order exactly when its connections
contain a cycle, a loop included, and it is acyclic exactly when it has one. A topological order
lists every node once, as the layers of the search one after the other, where the `i`-th layer
holds the nodes whose longest walk along the connections has `i` of them; every connection leads
from a node listed earlier to one listed later. -/
theorem topologicalOrder?_read (layout : Layout) (src : String) :
    ((ofChart (Chart.read layout src)).topologicalOrder? = none ↔
      HasCycle (Chart.read layout src).connections) ∧
    ((ofChart (Chart.read layout src)).isAcyclic = true ↔
      (ofChart (Chart.read layout src)).topologicalOrder? ≠ none) ∧
    ∀ order, (ofChart (Chart.read layout src)).topologicalOrder? = some order →
      (ofChart (Chart.read layout src)).LayeredBy (Chart.read layout src).connections order :=
  ⟨topologicalOrder?_read_eq_none_iff layout src, Option.isSome_iff_ne_none,
    fun _ h => layeredBy_read layout src h⟩

/-- A chain of two connections is ordered along the chain. -/
theorem topologicalOrder?_read_chain :
    (ofChart (Chart.read {} "a --> b - [x]\nb --> c - [y]")).topologicalOrder? =
        some ["a", "b", "c"] ∧
      (ofChart (Chart.read {} "a --> b - [x]\nb --> c - [y]")).LayeredBy
        (Chart.read {} "a --> b - [x]\nb --> c - [y]").connections ["a", "b", "c"] := by
  have h : (ofChart (Chart.read {} "a --> b - [x]\nb --> c - [y]")).topologicalOrder? =
      some ["a", "b", "c"] := by
    decide
  exact ⟨h, (topologicalOrder?_read {} _).2.2 _ h⟩

end Digraph

end Flowchart
