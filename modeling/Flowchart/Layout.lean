/-!
# Layout

Seed positions, assigned once when a node is created and never moved. Rows stack downward in
order of first discovery. The children of one source fan out alternately to the right and to the
left of it, each pair one step farther out:

    0 children → +1 step, 1 → −1 step, 2 → +2 steps, 3 → −2 steps, …

Halving and parity are taken with the floor, so the rule extends to every integer count: the
counts `n` and `−3 − n` get the same offset, and `−1`, `−2` get none.
-/

namespace Flowchart

/-- The placement constants. -/
structure Layout where
  originY : Int := 50
  rowSpacing : Int := 150
  seedSourceX : Int := 100
  seedTargetX : Int := 300
  fanStep : Int := 250
  deriving DecidableEq, Repr

namespace Layout

/-- The row of the node created when `index` nodes already exist. -/
def rowY (l : Layout) (index : Int) : Int :=
  l.originY + l.rowSpacing * index

/-- The signed offset of the next child of a source that has `n` children already. -/
def fanOffset (l : Layout) (n : Int) : Int :=
  let distance := l.fanStep * (1 + n.fdiv 2)
  if n.fmod 2 = 0 then distance else -distance

/-- The positions `(source x, target x)` of a new edge. A source already placed at `x` with `n`
children keeps its place and the target goes to the next fan position; a source not yet placed
starts a fresh region at the seed pair. -/
def edgeX (l : Layout) : Option (Int × Nat) → Int × Int
  | none => (l.seedSourceX, l.seedTargetX)
  | some (x, n) => (x, x + l.fanOffset n)

end Layout

end Flowchart
