/-!
# Shapes

Every node is drawn in one of five bracket shapes, named by the opening brackets that declare
it. Three of them are blocks; the two square boxes are plain nodes. An unknown or missing marker
gives the plain box.
-/

namespace Flowchart

/-- The coarse class of a node. -/
inductive Kind where
  | node
  | block
  deriving DecidableEq, Repr

/-- The bracket shape of a node. -/
inductive Shape where
  | plain
  | subroutine
  | round
  | circle
  | stadium
  deriving DecidableEq, Repr

namespace Kind

def name : Kind → String
  | node => "node"
  | block => "block"

def ofName? : String → Option Kind
  | "node" => some node
  | "block" => some block
  | _ => none

end Kind

namespace Shape

/-- The shape an opening marker declares. -/
def ofMarker : String → Shape
  | "[" => plain
  | "[[" => subroutine
  | "(" => round
  | "((" => circle
  | "[(" => stadium
  | _ => plain

/-- The shape of an endpoint that may carry no marker at all. -/
def ofMarker? : Option String → Shape
  | some m => ofMarker m
  | none => plain

def kind : Shape → Kind
  | plain | subroutine => .node
  | round | circle | stadium => .block

/-- The bracket spelling of a shape, as the drawing surface reads it. -/
def tag : Shape → String
  | plain => "[]"
  | subroutine => "[[]]"
  | round => "()"
  | circle => "(())"
  | stadium => "[()]"

def ofTag? : String → Option Shape
  | "[]" => some plain
  | "[[]]" => some subroutine
  | "()" => some round
  | "(())" => some circle
  | "[()]" => some stadium
  | _ => none

end Shape

end Flowchart
