import Mathlib.Data.Set.Function
import Flowchart.Layout

/-!
# Fan offsets

The children of a source fan out alternately to its right and to its left, one step farther per
pair: the child that finds `n` siblings is `fanSteps n` steps from the source, and `fanSteps`
runs `1, −1, 2, −2, …` over the counts `0, 1, 2, 3, …` (`fanOffset_eq_mul`).

Halving and parity are taken with the floor, so the rule is defined on every integer, and it folds
the integers onto the step counts two to one: the counts `n` and `−3 − n`, one even and one odd,
get the same place, and `−1`, `−2` get the source's own. So the counts from `0` up take every
non-zero multiple of the step exactly once: no two children of a placed source share an abscissa,
and none sits above its source (`edgeX_fan`).
-/

namespace Flowchart

namespace Layout

/-- The signed number of steps between a source and its child that finds `n` siblings. -/
def fanSteps (n : Int) : Int :=
  if n.fmod 2 = 0 then 1 + n.fdiv 2 else -(1 + n.fdiv 2)

theorem fanOffset_eq_mul (l : Layout) (n : Int) : l.fanOffset n = l.fanStep * fanSteps n := by
  unfold fanOffset fanSteps
  split
  · rfl
  · exact (Int.mul_neg _ _).symm

/-! ## Step counts -/

theorem fanSteps_eq (n : Int) :
    fanSteps n = if n % 2 = 0 then 1 + n / 2 else -(1 + n / 2) := by
  rw [fanSteps, Int.fmod_eq_emod_of_nonneg n (by decide), Int.fdiv_eq_ediv_of_nonneg n (by decide)]

@[simp] theorem fanSteps_two_mul (j : Int) : fanSteps (2 * j) = j + 1 := by
  rw [fanSteps_eq]
  split <;> omega

@[simp] theorem fanSteps_two_mul_add_one (j : Int) : fanSteps (2 * j + 1) = -(j + 1) := by
  rw [fanSteps_eq]
  split <;> omega

theorem fanSteps_neg_three_sub (n : Int) : fanSteps (-3 - n) = fanSteps n := by
  rw [fanSteps_eq, fanSteps_eq]
  split_ifs <;> omega

theorem fanSteps_eq_fanSteps_iff {m n : Int} : fanSteps m = fanSteps n ↔ m = n ∨ m = -3 - n := by
  constructor
  · rw [fanSteps_eq, fanSteps_eq]
    split_ifs <;> omega
  · rintro (rfl | rfl)
    · rfl
    · exact fanSteps_neg_three_sub n

theorem exists_nonneg_fanSteps_eq {k : Int} (hk : k ≠ 0) : ∃ n, 0 ≤ n ∧ fanSteps n = k := by
  rcases lt_or_gt_of_ne hk with hleft | hright
  · refine ⟨2 * (-k - 1) + 1, by omega, ?_⟩
    rw [fanSteps_two_mul_add_one]
    omega
  · refine ⟨2 * (k - 1), by omega, ?_⟩
    rw [fanSteps_two_mul]
    omega

theorem fanSteps_surjective : Function.Surjective fanSteps := by
  intro k
  by_cases hk : k = 0
  · exact ⟨-1, by rw [hk]; decide⟩
  · obtain ⟨n, -, hn⟩ := exists_nonneg_fanSteps_eq hk
    exact ⟨n, hn⟩

theorem fanSteps_eq_zero_iff {n : Int} : fanSteps n = 0 ↔ n = -1 ∨ n = -2 := by
  rw [fanSteps_eq]
  split_ifs <;> omega

theorem fanSteps_ne_zero {n : Int} (hn : 0 ≤ n) : fanSteps n ≠ 0 := by
  rw [Ne, fanSteps_eq_zero_iff]
  omega

/-! ## Offsets -/

variable (l : Layout)

theorem range_fanOffset : Set.range l.fanOffset = {m | l.fanStep ∣ m} := by
  ext m
  constructor
  · rintro ⟨n, rfl⟩
    exact ⟨fanSteps n, l.fanOffset_eq_mul n⟩
  · rintro ⟨k, rfl⟩
    obtain ⟨n, hn⟩ := fanSteps_surjective k
    exact ⟨n, by rw [fanOffset_eq_mul, hn]⟩

theorem fanOffset_eq_fanOffset_iff (h : l.fanStep ≠ 0) {m n : Int} :
    l.fanOffset m = l.fanOffset n ↔ m = n ∨ m = -3 - n := by
  rw [fanOffset_eq_mul, fanOffset_eq_mul, Int.mul_eq_mul_left_iff h, fanSteps_eq_fanSteps_iff]

theorem fanOffset_ne_zero (h : l.fanStep ≠ 0) {n : Int} (hn : 0 ≤ n) : l.fanOffset n ≠ 0 := by
  rw [fanOffset_eq_mul]
  exact Int.mul_ne_zero h (fanSteps_ne_zero hn)

/-- The counts from `0` up take every non-zero multiple of the step, each once. -/
theorem bijOn_fanOffset (h : l.fanStep ≠ 0) :
    Set.BijOn l.fanOffset {n | 0 ≤ n} {m | l.fanStep ∣ m ∧ m ≠ 0} := by
  refine ⟨fun n hn => ⟨⟨fanSteps n, l.fanOffset_eq_mul n⟩, l.fanOffset_ne_zero h hn⟩, ?_, ?_⟩
  · intro m (hm : 0 ≤ m) n (hn : 0 ≤ n) hmn
    rcases (l.fanOffset_eq_fanOffset_iff h).mp hmn with hmn | hmn
    · exact hmn
    · omega
  · rintro m ⟨⟨k, rfl⟩, hm⟩
    have hk : k ≠ 0 := by
      rintro rfl
      exact hm (Int.mul_zero _)
    obtain ⟨n, hn, hsteps⟩ := exists_nonneg_fanSteps_eq hk
    exact ⟨n, hn, by rw [fanOffset_eq_mul, hsteps]⟩

/-- The children of a placed source get pairwise different abscissas, none of them the
source's own. -/
theorem edgeX_fan (h : l.fanStep ≠ 0) (x : Int) :
    Function.Injective (fun n : Nat => (l.edgeX (some (x, n))).2) ∧
      ∀ n : Nat, (l.edgeX (some (x, n))).2 ≠ x := by
  constructor
  · intro m n hmn
    have hoffset : l.fanOffset m = l.fanOffset n := by simpa [edgeX] using hmn
    rcases (l.fanOffset_eq_fanOffset_iff h).mp hoffset with hmn | hmn <;> omega
  · intro n hn
    have hoffset : l.fanOffset n = 0 := by
      simp only [edgeX] at hn
      omega
    exact l.fanOffset_ne_zero h (Int.natCast_nonneg n) hoffset

/-- With a non-zero step, the fan offsets are exactly the multiples of the step, each reached
from the two counts `n` and `−3 − n` and from no other; `−1` and `−2` give no offset. The counts
from `0` up alternate right and left, one step farther per pair, and take every non-zero
multiple exactly once, so the children of a placed source never share an abscissa and never sit
above it. -/
theorem fanOffset_two_preimages (l : Layout) (h : l.fanStep ≠ 0) :
    Set.range l.fanOffset = {m | l.fanStep ∣ m} ∧
    (∀ m n, l.fanOffset m = l.fanOffset n ↔ m = n ∨ m = -3 - n) ∧
    (∀ n, l.fanOffset (-3 - n) = l.fanOffset n) ∧
    l.fanOffset (-1) = 0 ∧ l.fanOffset (-2) = 0 ∧
    Set.BijOn l.fanOffset {n | 0 ≤ n} {m | l.fanStep ∣ m ∧ m ≠ 0} ∧
    (∀ j, l.fanOffset (2 * j) = l.fanStep * (j + 1) ∧
      l.fanOffset (2 * j + 1) = -(l.fanStep * (j + 1))) ∧
    ∀ x : Int, Function.Injective (fun n : Nat => (l.edgeX (some (x, n))).2) ∧
      ∀ n : Nat, (l.edgeX (some (x, n))).2 ≠ x := by
  refine ⟨l.range_fanOffset, fun m n => l.fanOffset_eq_fanOffset_iff h, fun n => ?_, ?_, ?_,
    l.bijOn_fanOffset h, fun j => ⟨?_, ?_⟩, l.edgeX_fan h⟩
  · rw [fanOffset_eq_mul, fanOffset_eq_mul, fanSteps_neg_three_sub]
  · rw [fanOffset_eq_mul, fanSteps_eq_zero_iff.mpr (.inl rfl), Int.mul_zero]
  · rw [fanOffset_eq_mul, fanSteps_eq_zero_iff.mpr (.inr rfl), Int.mul_zero]
  · rw [fanOffset_eq_mul, fanSteps_two_mul]
  · rw [fanOffset_eq_mul, fanSteps_two_mul_add_one, Int.mul_neg]

/-- A step pointing left still gives each child its own non-zero offset. -/
theorem fanOffset_two_preimages_leftward :
    ({ fanStep := -3 } : Layout).fanStep ≠ 0 ∧
      Set.BijOn ({ fanStep := -3 } : Layout).fanOffset {n | 0 ≤ n}
        {m | (-3 : Int) ∣ m ∧ m ≠ 0} := by
  have hstep : ({ fanStep := -3 } : Layout).fanStep ≠ 0 := by decide
  obtain ⟨-, -, -, -, -, hbij, -⟩ := fanOffset_two_preimages { fanStep := -3 } hstep
  exact ⟨hstep, hbij⟩

end Layout

end Flowchart
