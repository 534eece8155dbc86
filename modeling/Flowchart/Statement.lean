import Flowchart.Node
import Flowchart.Piece

/-!
# Statements

One line of a chart states one edge, in one of three forms, tried in this order:

    a - [Start] --> b - (Next)      full definition, written forward
    a --> b - (Next)                simple connection, written forward
    b - (Next) <-- a                reverse connection, written backward

An endpoint is declared by a dash, an opening marker, a label and closing brackets; the kind of
closing bracket is not checked. Blanks may stand around every token, and ids and labels are
trimmed. In the reverse form the declared endpoint on the left is the head of the edge and the
bare id on the right its tail, so a statement always names its endpoints in edge direction.

The first form that the whole line fits is taken, with its preferred cut (`Piece.split?`). If
that cut leaves an id blank the line is rejected, and later forms are not tried.
-/

namespace Flowchart

/-- The opening marker and the label that declare the shape of an endpoint. -/
structure Declaration where
  marker : String
  label : String
  deriving DecidableEq, Repr

/-- One end of a stated edge: an id, declared with a shape or referred to bare. -/
structure Endpoint where
  id : String
  declaration : Option Declaration := none
  deriving DecidableEq, Repr

namespace Endpoint

def marker? (e : Endpoint) : Option String := e.declaration.map (·.marker)

def label? (e : Endpoint) : Option String := e.declaration.map (·.label)

def shape (e : Endpoint) : Shape := Shape.ofMarker? e.marker?

def bare (id : List Char) : Endpoint := ⟨String.ofList (Text.trim id), none⟩

def declared (id marker label : List Char) : Endpoint :=
  ⟨String.ofList (Text.trim id),
    some ⟨String.ofList marker, String.ofList (Text.trim label)⟩⟩

end Endpoint

/-- One edge as a line states it: tail, head, and the way it was written. -/
structure Statement where
  source : Endpoint
  target : Endpoint
  direction : Direction
  deriving DecidableEq, Repr

/-- The three statement forms. -/
inductive Form where
  | full
  | simple
  | reverse
  deriving DecidableEq, Repr

namespace Form

/-- A declared endpoint after its id: a dash, opening marker, label and closing brackets. -/
def declaration : List Piece :=
  [.allBlanks, .token ['-'], .allBlanks, .openers, .text, .closers]

/-- The pieces of a form. Blanks are taken whole except before an id, which may begin with
blanks of its own. -/
def pieces : Form → List Piece
  | full =>
    [.text] ++ declaration ++ [.allBlanks, .token "-->".toList, .blanks, .text] ++ declaration
  | simple => [.text, .allBlanks, .token "-->".toList, .blanks, .text] ++ declaration
  | reverse =>
    [.text] ++ declaration ++ [.allBlanks, .token "<--".toList, .blanks, .text, .allBlanks]

def all : List Form := [full, simple, reverse]

/-- The statement a form makes of the kept chunks of its cut: ids, markers and labels in the
order they are written. -/
def statement? : Form → List (List Char) → Option Statement
  | full, [a, m, l, b, n, k] => some ⟨.declared a m l, .declared b n k, .forward⟩
  | simple, [a, b, n, k] => some ⟨.bare a, .declared b n k, .forward⟩
  | reverse, [b, n, k, a] => some ⟨.bare a, .declared b n k, .backward⟩
  | _, _ => none

/-- The first form that the whole line fits, with the preferred cut. -/
def firstFit? (cs : List Char) : Option (Form × List (List Char)) :=
  all.findSome? fun f =>
    (Piece.split? f.pieces cs).map fun lengths => (f, Piece.chunks lengths cs)

end Form

namespace Statement

def hasIds (s : Statement) : Bool := !s.source.id.isEmpty && !s.target.id.isEmpty

/-- Reads one line: the statement of the first form the line fits, unless an id is blank. -/
def read? (cs : List Char) : Option Statement :=
  match Form.firstFit? cs with
  | none => none
  | some (f, chunks) => (f.statement? (Piece.kept f.pieces chunks)).filter hasIds

def ofLine? (line : String) : Option Statement := read? line.toList

end Statement

end Flowchart
