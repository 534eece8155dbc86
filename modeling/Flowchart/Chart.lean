import Flowchart.Registry
import Flowchart.Statement

/-!
# Charts

A chart is read from text one line at a time; every line states one edge. The lines are split at
line feeds only, so a carriage return stays part of its line, and a final line feed leaves an
empty last line. Empty text is the empty chart.

A line that states an edge adds it: first the seed abscissas are computed from the source as it
was before the line (`Layout.edgeX`, fanning out by the number of edges that already leave it),
then the source and the target are got or created, in that order, then the connection is
recorded. A line that states nothing is skipped, and the chart remembers the last such line; it
is well formed when there is none.

A chart is read from a value of any type (`Chart.parse`), and only a string is read: any other
value is refused, before it is looked at, with the name of its type.
-/

namespace Flowchart

/-- The chart a text describes: its registry and the number of the last line that states no
edge, if any. -/
structure Chart where
  registry : Registry := {}
  rejected : Option Nat := none
  deriving DecidableEq, Repr

/-- What an endpoint declares of a new node placed at `x`: the kind and shape of its marker, and
its label, empty for a bare id. -/
def Endpoint.draft (e : Endpoint) (x : Int) : Draft :=
  { kind := e.shape.kind, label := e.label?.getD "", shape := e.shape, x }

def Statement.connection (s : Statement) : Connection := ⟨s.source.id, s.target.id, s.direction⟩

namespace Chart

/-- The lines of a chart text, split at line feeds. -/
def lines (src : String) : List (List Char) :=
  if src.isEmpty then [] else src.toList.splitOn '\n'

def readings (src : String) : List (Option Statement) := (lines src).map Statement.read?

/-- The number (from 1) of the last line that states nothing. -/
def lastRejected (rs : List (Option Statement)) : Option Nat :=
  (((rs.zipIdx 1).filter fun p => p.1.isNone).getLast?).map (·.2)

/-- Gets or creates both ends of the edge a statement makes, the source first, with the seed
abscissas computed from the source as it was before the line. -/
def declare (layout : Layout) (r : Registry) (s : Statement) : Registry :=
  let seed := layout.edgeX ((r.get? s.source.id).map fun n => (n.x, n.outgoing.length))
  let r := (r.getOrCreate layout s.source.id (s.source.draft seed.1)).2
  (r.getOrCreate layout s.target.id (s.target.draft seed.2)).2

/-- Adds the edge a statement makes to a registry. Once declared both ends are registered, so the
connection is linked in at once. -/
def add (layout : Layout) (r : Registry) (s : Statement) : Registry :=
  (declare layout r s).connect s.connection

/-- The chart of the statements read from a text. -/
def ofReadings (layout : Layout) (rs : List (Option Statement)) : Chart :=
  { registry := (rs.filterMap id).foldl (add layout) {}, rejected := lastRejected rs }

def read (layout : Layout) (src : String) : Chart := ofReadings layout (readings src)

def nodes (c : Chart) : List Node := c.registry.nodes

def connections (c : Chart) : List Connection := c.registry.connections

/-- The message that names the last line stating no edge, or the empty text. -/
def errorMessage (c : Chart) : String :=
  match c.rejected with
  | none => ""
  | some n => s!"Invalid syntax on line {n}"

def ok (c : Chart) : Bool := c.rejected.isNone

end Chart

/-- A value handed to the reader, known by its type; of a string its text is kept. -/
inductive Value where
  | null
  | bool
  | int
  | float
  | str (s : String)
  | list
  | dict
  deriving DecidableEq, Repr

def Value.typeName : Value → String
  | .null => "NoneType"
  | .bool => "bool"
  | .int => "int"
  | .float => "float"
  | .str _ => "str"
  | .list => "list"
  | .dict => "dict"

/-- A chart was to be read from a value of another type than a string. -/
structure TypeError where
  typeName : String
  deriving DecidableEq, Repr

def TypeError.message (e : TypeError) : String := s!"expected str, got {e.typeName}"

namespace Chart

def parse (layout : Layout) : Value → Except TypeError Chart
  | .str src => .ok (read layout src)
  | v => .error ⟨v.typeName⟩

end Chart

end Flowchart
