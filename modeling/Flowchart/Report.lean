import Flowchart.Chart
import Flowchart.Text.Json

/-!
# Reports

The two ways a chart is written out.

The document is a JSON object with the keys `errorMessage`, `chartType`, `chartName`, `nodes` and
`connections`, in this order; chart type and name are reserved and always empty. A node is written
with the keys `id`, `type`, `label`, `x`, `y`, `incoming`, `outgoing` and `bracketType`, a
connection with `from`, `to` and `direction`.

The summary has one line per node, `id tag (x, y) -> heads`, the heads of its outgoing edges
joined by commas or `-` if there are none, and then a line `error: message` if a line of the text
stated nothing. Every line ends with a line feed; a summary with no lines is empty.
-/

namespace Flowchart

open Text

namespace Node

def toJson (n : Node) : Json :=
  .obj [("id", .str n.id), ("type", .str n.kind.name), ("label", .str n.label), ("x", .int n.x),
    ("y", .int n.y), ("incoming", .arr (n.incoming.map .str)),
    ("outgoing", .arr (n.outgoing.map .str)), ("bracketType", .str n.shape.tag)]

def headsText (n : Node) : String :=
  let joined := ", ".intercalate n.outgoing
  if joined.isEmpty then "-" else joined

/-- One line of a summary: id, shape, position and heads. -/
def summaryLine (n : Node) : String :=
  s!"{n.id} {n.shape.tag} ({n.x}, {n.y}) -> {n.headsText}"

end Node

def Connection.toJson (c : Connection) : Json :=
  .obj [("from", .str c.source), ("to", .str c.target), ("direction", .str c.direction.name)]

namespace Chart

def toJson (c : Chart) : Json :=
  .obj [("errorMessage", .str c.errorMessage), ("chartType", .str ""), ("chartName", .str ""),
    ("nodes", .arr (c.nodes.map Node.toJson)),
    ("connections", .arr (c.connections.map Connection.toJson))]

def summaryLines (c : Chart) : List String :=
  c.nodes.map Node.summaryLine ++
    (if c.errorMessage.isEmpty then [] else [s!"error: {c.errorMessage}"])

/-- The summary: each line followed by a line feed. -/
def summary (c : Chart) : String :=
  match c.summaryLines with
  | [] => ""
  | lines => "\n".intercalate lines ++ "\n"

end Chart

end Flowchart
