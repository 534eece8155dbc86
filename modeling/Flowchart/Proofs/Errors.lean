import Mathlib.Order.Bounds.Defs
import Mathlib.Data.List.Induction
import Flowchart.Chart

/-!
# The reported error

Reading a chart goes through the lines of its text in order and, at each line that states
nothing, overwrites the error with that line's number. So the error names the last such line,
and there is none when every line states an edge: `lastRejected_append` is one line of the pass,
`lastRejected_eq_some_iff` and `lastRejected_eq_none_iff` the whole pass. The message is empty
exactly when there is no error, and it writes the line number in decimal, so different lines give
different messages. A chart is read from a string only; any other value is refused with the
error that names its type (`Chart.parse_eq_error_iff`).

Empty text is the empty chart: no line is read at all. Any other text has a line more than it has
line feeds, and a text that ends in a line feed has an empty last line, which states nothing:
such a text always reports its last line.
-/

namespace Flowchart

namespace Chart

/-- Line `n` of `ls`, counted from 1, states no edge. -/
def RejectedLine (ls : List (List Char)) (n : Nat) : Prop :=
  0 < n ∧ ∃ l, ls[n - 1]? = some l ∧ Statement.read? l = none

/-! ## The rejected lines -/

theorem RejectedLine.le_length {ls : List (List Char)} {n : Nat} (h : RejectedLine ls n) :
    n ≤ ls.length := by
  obtain ⟨hn, l, hl, -⟩ := h
  have hlt := (List.getElem?_eq_some_iff.mp hl).1
  omega

theorem rejectedLine_append_iff {ls : List (List Char)} {l : List Char} {n : Nat} :
    RejectedLine (ls ++ [l]) n ↔
      RejectedLine ls n ∨ (n = ls.length + 1 ∧ Statement.read? l = none) := by
  unfold RejectedLine
  constructor
  · rintro ⟨hn, l', hl', hread⟩
    rw [List.getElem?_append] at hl'
    split at hl'
    · exact .inl ⟨hn, l', hl', hread⟩
    · rw [List.getElem?_singleton] at hl'
      split at hl'
      · cases hl'
        exact .inr ⟨by omega, hread⟩
      · cases hl'
  · rintro (⟨hn, l', hl', hread⟩ | ⟨rfl, hread⟩)
    · have hlt := (List.getElem?_eq_some_iff.mp hl').1
      exact ⟨hn, l', by rw [List.getElem?_append_left hlt]; exact hl', hread⟩
    · exact ⟨by omega, l, by simp, hread⟩

/-! ## The pass over the lines -/

theorem lastRejected_append (rs : List (Option Statement)) (r : Option Statement) :
    lastRejected (rs ++ [r]) = if r.isNone then some (rs.length + 1) else lastRejected rs := by
  unfold lastRejected
  rw [List.zipIdx_append, List.filter_append, List.getLast?_append]
  cases r <;> simp [Nat.add_comm]

theorem lastRejected_eq_none_iff (ls : List (List Char)) :
    lastRejected (ls.map Statement.read?) = none ↔ ∀ l ∈ ls, (Statement.read? l).isSome := by
  induction ls using List.reverseRecOn with
  | nil => simp [lastRejected]
  | append_singleton ls l ih =>
      rw [List.map_append, List.map_singleton, lastRejected_append]
      cases hl : Statement.read? l <;> simp [hl, ih, or_imp, forall_and]

/-- The error of the whole pass is the greatest number of a line that states nothing. -/
theorem lastRejected_eq_some_iff (ls : List (List Char)) (n : Nat) :
    lastRejected (ls.map Statement.read?) = some n ↔ IsGreatest {k | RejectedLine ls k} n := by
  induction ls using List.reverseRecOn generalizing n with
  | nil =>
      simp only [List.map_nil, lastRejected, List.zipIdx_nil, List.filter_nil, List.getLast?_nil,
        Option.map_none, reduceCtorEq, false_iff]
      rintro ⟨⟨-, l, hl, -⟩, -⟩
      simp at hl
  | append_singleton ls l ih =>
      rw [List.map_append, List.map_singleton, lastRejected_append, List.length_map]
      have hlast : ∀ k, RejectedLine (ls ++ [l]) k → k ≤ ls.length + 1 := fun k hk => by
        simpa using hk.le_length
      cases hl : Statement.read? l with
      | none =>
          have hnew : RejectedLine (ls ++ [l]) (ls.length + 1) :=
            rejectedLine_append_iff.mpr (.inr ⟨rfl, hl⟩)
          rw [Option.isNone_none, if_pos rfl, Option.some.injEq]
          constructor
          · rintro rfl
            exact ⟨hnew, hlast⟩
          · rintro ⟨hn, hmax⟩
            exact Nat.le_antisymm (hmax hnew) (hlast n hn)
      | some s =>
          have hset : {k | RejectedLine (ls ++ [l]) k} = {k | RejectedLine ls k} := by
            ext k
            simp [rejectedLine_append_iff, hl]
          rw [Option.isNone_some, if_neg Bool.false_ne_true, hset, ih]

/-! ## Messages -/

theorem toList_invalidSyntax (n : Nat) :
    (s!"Invalid syntax on line {n}").toList =
      "Invalid syntax on line ".toList ++ Nat.toDigits 10 n := by
  simp only [String.toList_append, toString, Nat.toList_repr]

theorem invalidSyntax_ne_empty (n : Nat) : s!"Invalid syntax on line {n}" ≠ "" := by
  intro h
  have hlist := congrArg String.toList h
  rw [toList_invalidSyntax] at hlist
  simp at hlist

theorem errorMessage_eq_empty_iff (c : Chart) : c.errorMessage = "" ↔ c.rejected = none := by
  unfold errorMessage
  cases c.rejected with
  | none => simp
  | some m =>
      simp only [reduceCtorEq, iff_false]
      exact invalidSyntax_ne_empty m

theorem errorMessage_eq_iff (c : Chart) (n : Nat) :
    c.errorMessage = s!"Invalid syntax on line {n}" ↔ c.rejected = some n := by
  unfold errorMessage
  cases c.rejected with
  | none =>
      simp only [reduceCtorEq, iff_false]
      exact (invalidSyntax_ne_empty n).symm
  | some m =>
      rw [Option.some.injEq]
      constructor
      · intro h
        have hdigits := congrArg String.toList h
        rw [toList_invalidSyntax, toList_invalidSyntax, List.append_cancel_left_eq] at hdigits
        rw [← @Nat.ofDigitChars_ten_toDigits m, hdigits, Nat.ofDigitChars_ten_toDigits]
      · rintro rfl
        rfl

theorem ok_iff (c : Chart) : c.ok = true ↔ c.errorMessage = "" := by
  rw [errorMessage_eq_empty_iff, ok, Option.isNone_iff_eq_none]

/-! ## Texts -/

theorem read_empty (layout : Layout) : read layout "" = {} := rfl

theorem rejected_read {layout : Layout} {src : String} (h : src ≠ "") :
    (read layout src).rejected = lastRejected ((src.toList.splitOn '\n').map Statement.read?) := by
  have hlines : lines src = src.toList.splitOn '\n' := by
    rw [lines, if_neg (by simpa [String.isEmpty_iff] using h)]
  rw [← hlines]
  rfl

theorem length_splitOn (xs : List Char) : (xs.splitOn '\n').length = xs.count '\n' + 1 := by
  induction xs with
  | nil => rfl
  | cons x xs ih =>
      rw [List.splitOn_cons_eq_if_modifyHead, List.count_cons]
      by_cases hx : x = '\n' <;> simp [hx, ih]

theorem rejected_read_of_getLast? {layout : Layout} {src : String}
    (h : src.toList.getLast? = some '\n') :
    (read layout src).rejected = some (src.toList.count '\n' + 1) := by
  obtain ⟨xs, hxs⟩ := List.getLast?_eq_some_iff.mp h
  have hne : src ≠ "" := by
    rintro rfl
    simp at h
  have hsplit : src.toList.splitOn '\n' = xs.splitOn '\n' ++ [[]] := by
    rw [hxs, List.splitOn_append_cons_self, List.splitOn_nil]
  have hempty : Statement.read? [] = none := by decide
  rw [rejected_read hne, hsplit, List.map_append, List.map_singleton, lastRejected_append, hempty,
    Option.isNone_none, if_pos rfl, List.length_map, length_splitOn, hxs, List.count_append]
  simp

/-! ## Values -/

theorem parse_eq_ok_iff {layout : Layout} {v : Value} {c : Chart} :
    parse layout v = .ok c ↔ ∃ s, v = .str s ∧ c = read layout s := by
  cases v with
  | str s =>
      simp only [parse, Except.ok.injEq, Value.str.injEq, exists_eq_left']
      exact eq_comm
  | _ => simp [parse]

/-- A value other than a string is refused, with the error that names its type. -/
theorem parse_eq_error_iff {layout : Layout} {v : Value} {e : TypeError} :
    parse layout v = .error e ↔ (∀ s, v ≠ .str s) ∧ e = ⟨v.typeName⟩ := by
  cases v with
  | str s => simp [parse]
  | _ => simp [parse, eq_comm]

end Chart

/-- Empty text reads without error. For other text, split at line feeds and counted from 1, the
message is empty exactly when every line states an edge, and otherwise it names the last line
that states none; the chart is well formed exactly when the message is empty. A text that ends in
a line feed has an empty last line and reports it: its line feeds and one. -/
theorem Chart.errorMessage_read (layout : Layout) (src : String) :
    (src = "" → (Chart.read layout src).errorMessage = "" ∧ (Chart.read layout src).ok = true) ∧
    (src ≠ "" →
      ((Chart.read layout src).errorMessage = "" ↔
        ∀ l ∈ src.toList.splitOn '\n', (Statement.read? l).isSome) ∧
      ∀ n : Nat, (Chart.read layout src).errorMessage = s!"Invalid syntax on line {n}" ↔
        IsGreatest {k | Chart.RejectedLine (src.toList.splitOn '\n') k} n) ∧
    ((Chart.read layout src).ok = true ↔ (Chart.read layout src).errorMessage = "") ∧
    (src.toList.getLast? = some '\n' →
      (Chart.read layout src).errorMessage =
        "Invalid syntax on line " ++ toString (src.toList.count '\n' + 1)) := by
  refine ⟨?_, fun h => ⟨?_, fun n => ?_⟩, Chart.ok_iff _, fun h => ?_⟩
  · rintro rfl
    rw [Chart.read_empty]
    exact ⟨rfl, rfl⟩
  · rw [Chart.errorMessage_eq_empty_iff, Chart.rejected_read h, Chart.lastRejected_eq_none_iff]
  · rw [Chart.errorMessage_eq_iff, Chart.rejected_read h, Chart.lastRejected_eq_some_iff]
  · exact (Chart.errorMessage_eq_iff _ _).mpr (Chart.rejected_read_of_getLast? h)

/-- A text with a rejected line in the middle and a final line feed reports its empty last
line, not the earlier one. -/
theorem Chart.errorMessage_read_trailing :
    "A --> B - [x]\nbad\n" ≠ "" ∧ "A --> B - [x]\nbad\n".toList.getLast? = some '\n' ∧
      IsGreatest {k | Chart.RejectedLine ("A --> B - [x]\nbad\n".toList.splitOn '\n') k} 3 ∧
      (Chart.read {} "A --> B - [x]\nbad\n").errorMessage = "Invalid syntax on line 3" := by
  have hne : "A --> B - [x]\nbad\n" ≠ "" := by decide
  have hlast : "A --> B - [x]\nbad\n".toList.getLast? = some '\n' := by decide
  obtain ⟨-, hlines, -, htrailing⟩ := Chart.errorMessage_read {} "A --> B - [x]\nbad\n"
  have hmsg : (Chart.read {} "A --> B - [x]\nbad\n").errorMessage =
      s!"Invalid syntax on line {3}" := by
    rw [htrailing hlast]
    decide
  exact ⟨hne, hlast, ((hlines hne).2 3).mp hmsg, hmsg.trans (by decide)⟩

end Flowchart
