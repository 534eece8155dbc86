import Flowchart.Proofs.Growth

/-!
# Steps that change nothing

A record is refused when its source or its target is not registered. The reply names the
missing end, the source when both are missing, and the registry stays as it was: both ends are
looked up before anything is written, so no neighbour list and no connection list is half
updated. Such a refused record, and any query (`get`, `contains`, `size`, `nodes`,
`connections`), is inert (`Step.Inert`): put between two parts of a session, it changes no reply
of the second part and not the registry the session ends with (`replies_insert_inert`).

The replies of a session are read through two lemmas: one step answers from the registry the
earlier steps left (`replies_cons`), and a session split in two answers its second part from
where the first part stopped (`replies_append`).
-/

namespace Flowchart

namespace Registry

/-- A step that leaves the registry `r` as it is: a query, or a record of a connection with an
end that `r` does not hold. -/
def Step.Inert (r : Registry) : Step → Prop
  | .getOrCreate _ _ => False
  | .record c => r.contains c.source = false ∨ r.contains c.target = false
  | .get _ | .contains _ | .size | .nodes | .connections => True

variable {layout : Layout}

/-! ## Refused records -/

theorem record_of_contains_eq_false_target {r : Registry} {c : Connection}
    (hs : r.contains c.source = true) (ht : r.contains c.target = false) :
    r.record c = .error (.unregistered c.target) := by
  simp [record, hs, ht]

theorem step_record_of_source {r : Registry} {c : Connection} (h : r.contains c.source = false) :
    r.step layout (.record c) = (.rejected (.unregistered c.source), r) := by
  simp only [step, record_of_contains_eq_false_source h]

theorem step_record_of_target {r : Registry} {c : Connection} (hs : r.contains c.source = true)
    (ht : r.contains c.target = false) :
    r.step layout (.record c) = (.rejected (.unregistered c.target), r) := by
  simp only [step, record_of_contains_eq_false_target hs ht]

theorem step_of_inert {r : Registry} {s : Step} (h : s.Inert r) : (r.step layout s).2 = r := by
  cases s with
  | getOrCreate id d => exact h.elim
  | record c =>
      cases hs : r.contains c.source with
      | false => rw [step_record_of_source hs]
      | true =>
          have ht : r.contains c.target = false := by simpa [Step.Inert, hs] using h
          rw [step_record_of_target hs ht]
  | get id => rfl
  | contains id => rfl
  | size => rfl
  | nodes => rfl
  | connections => rfl

/-! ## Replies of a session -/

theorem replies_cons (r : Registry) (s : Step) (steps : List Step) :
    replies layout r (s :: steps) =
      (r.step layout s).1 :: replies layout (r.step layout s).2 steps := rfl

theorem afterAll_cons (r : Registry) (s : Step) (steps : List Step) :
    afterAll layout r (s :: steps) = afterAll layout (r.step layout s).2 steps := rfl

theorem length_replies (r : Registry) (steps : List Step) :
    (replies layout r steps).length = steps.length := by
  induction steps generalizing r with
  | nil => rfl
  | cons s steps ih => rw [replies_cons, List.length_cons, ih, List.length_cons]

theorem replies_append (r : Registry) (steps more : List Step) :
    replies layout r (steps ++ more) =
      replies layout r steps ++ replies layout (afterAll layout r steps) more := by
  induction steps generalizing r with
  | nil => rfl
  | cons s steps ih =>
      rw [List.cons_append, replies_cons, replies_cons, ih, afterAll_cons, List.cons_append]

/-- An inert step put between two parts of a session answers for itself and changes nothing
after it: the second part answers, and the session ends, as without it. -/
theorem replies_insert_inert (r : Registry) (steps more : List Step) {s : Step}
    (h : s.Inert (afterAll layout r steps)) :
    replies layout r (steps ++ s :: more) =
        replies layout r steps ++
          ((afterAll layout r steps).step layout s).1 ::
            (replies layout r (steps ++ more)).drop steps.length ∧
      afterAll layout r (steps ++ s :: more) = afterAll layout r (steps ++ more) := by
  constructor
  · rw [replies_append, replies_cons, step_of_inert h, replies_append,
      List.drop_left' (length_replies r steps)]
  · rw [afterAll_append, afterAll_append, afterAll_cons, step_of_inert h]

end Registry

/-- A record with an end that is not registered is refused: the error names the source when the
source is missing, whether or not the target is, and the target otherwise, and the registry is
left exactly as it was. Such a refused record, or any query, put between two parts of a session,
answers for itself and changes no reply of the second part and not the registry the session ends
with. -/
theorem Registry.refused_record_changes_nothing (layout : Layout) :
    (∀ (r : Registry) (c : Connection), r.contains c.source = false →
      r.step layout (.record c) = (.rejected (.unregistered c.source), r) ∧
        (RecordError.unregistered c.source).message = s!"node '{c.source}' is not registered") ∧
    (∀ (r : Registry) (c : Connection), r.contains c.source = true → r.contains c.target = false →
      r.step layout (.record c) = (.rejected (.unregistered c.target), r) ∧
        (RecordError.unregistered c.target).message = s!"node '{c.target}' is not registered") ∧
    ∀ (r : Registry) (steps more : List Step) (s : Step), s.Inert (afterAll layout r steps) →
      replies layout r (steps ++ s :: more) =
          replies layout r steps ++
            ((afterAll layout r steps).step layout s).1 ::
              (replies layout r (steps ++ more)).drop steps.length ∧
        afterAll layout r (steps ++ s :: more) = afterAll layout r (steps ++ more) :=
  ⟨fun _ _ h => ⟨step_record_of_source h, rfl⟩,
    fun _ _ hs ht => ⟨step_record_of_target hs ht, rfl⟩,
    fun r steps more _ h => replies_insert_inert r steps more h⟩

/-- A record towards a node not created yet, put before its creation, is refused and changes
nothing later in the session. -/
theorem Registry.refused_record_before_target :
    (afterAll {} {} [.getOrCreate "A" {}]).contains "A" = true ∧
    (afterAll {} {} [.getOrCreate "A" {}]).contains "B" = false ∧
    (afterAll {} {} [.getOrCreate "A" {}]).step {} (.record ⟨"A", "B", .forward⟩) =
      (.rejected (.unregistered "B"), afterAll {} {} [.getOrCreate "A" {}]) ∧
    replies {} {} ([.getOrCreate "A" {}] ++
        .record ⟨"A", "B", .forward⟩ :: [.getOrCreate "B" {}, .record ⟨"A", "B", .forward⟩]) =
      replies {} {} [.getOrCreate "A" {}] ++
        ((afterAll {} {} [.getOrCreate "A" {}]).step {} (.record ⟨"A", "B", .forward⟩)).1 ::
          (replies {} {} ([.getOrCreate "A" {}] ++
            [.getOrCreate "B" {}, .record ⟨"A", "B", .forward⟩])).drop 1 := by
  have hA : (afterAll {} {} [.getOrCreate "A" {}]).contains "A" = true := by decide
  have hB : (afterAll {} {} [.getOrCreate "A" {}]).contains "B" = false := by decide
  obtain ⟨-, hrefused, hinert⟩ := Registry.refused_record_changes_nothing {}
  exact ⟨hA, hB, (hrefused _ ⟨"A", "B", .forward⟩ hA hB).1,
    (hinert {} [.getOrCreate "A" {}] _ (.record ⟨"A", "B", .forward⟩) (.inr hB)).1⟩

end Flowchart
