import Flowchart.Text.Blank
import Flowchart.Shape
import Flowchart.Layout
import Flowchart.Node
import Flowchart.Piece
import Flowchart.Statement
import Flowchart.Registry
import Flowchart.Registry.Step
import Flowchart.Chart
import Flowchart.Text.Json
import Flowchart.Report
import Flowchart.Digraph
import Flowchart.Text.Stream
import Flowchart.Text.Digit
import Flowchart.Text.Integer
import Flowchart.Text.Printable
import Flowchart.Text.Quoted
import Flowchart.Files
import Flowchart.Text.Similarity
import Flowchart.Command
import Flowchart.Main
import Flowchart.Proofs.Grammar
import Flowchart.Proofs.Matching
import Flowchart.Proofs.Registry
import Flowchart.Proofs.Reading
import Flowchart.Proofs.Graph
import Flowchart.Proofs.Growth
import Flowchart.Proofs.Layers
import Flowchart.Proofs.Cuts
import Flowchart.Proofs.Writing
import Flowchart.Proofs.Errors
import Flowchart.Proofs.Session
import Flowchart.Proofs.Fan
import Flowchart.Proofs.Library
import Flowchart.Proofs.Text
import Flowchart.Proofs.Command
