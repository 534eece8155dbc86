import Flowchart.Shape

/-!
# Nodes and connections

The records a chart is made of. A node carries its id, its shape and kind, the label drawn in
it, its seed position and the ids of its neighbours on incoming and outgoing edges, each in order
of first appearance. A connection is a directed edge from its source to its target, tagged with
the direction in which the statement that produced it was written.
-/

namespace Flowchart

/-- The way a statement was written: with `-->` or with `<--`. -/
inductive Direction where
  | forward
  | backward
  deriving DecidableEq, Repr

namespace Direction

def name : Direction → String
  | forward => "forward"
  | backward => "backward"

def ofName? : String → Option Direction
  | "forward" => some forward
  | "backward" => some backward
  | _ => none

end Direction

structure Node where
  id : String
  kind : Kind
  label : String
  x : Int
  y : Int
  shape : Shape
  incoming : List String := []
  outgoing : List String := []
  deriving DecidableEq, Repr

/-- An edge from `source` to `target`. The edge always points from tail to head; `direction`
only records how it was written. -/
structure Connection where
  source : String
  target : String
  direction : Direction := .forward
  deriving DecidableEq, Repr

end Flowchart
