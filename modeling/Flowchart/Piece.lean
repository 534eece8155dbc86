import Flowchart.Text.Blank

/-!
# Pieces of a statement form

A statement form is a list of pieces. A line fits a form when it can be cut into consecutive
chunks, one per piece, each in the language of its piece, with nothing left over:

* `blanks`: a run of blank characters, possibly empty;
* `allBlanks`: the whole run of blank characters at that point, possibly empty;
* `token t`: exactly the text `t`;
* `text`: one or more characters other than a line feed;
* `openers`: one or more of `[` and `(`;
* `closers`: the whole run of `]` and `)` at that point, one or more.

A line may fit a form in many ways. Each piece ranks its own chunks: free text prefers the
shortest chunk, runs of blanks and brackets the longest. The preferred cut is the least one when
the chunks are compared piece by piece from the left. `Piece.search` tries the chunks a piece
can take off the front of a text, best first, and `Piece.split?` finds the preferred cut by
trying them in that order and going back to the next choice whenever the rest of the line does
not fit.

A chunk is given by its length and the text after it. The chunks of a run are reached by walking
down the line one character at a time, so a search costs no more than the choices it tries; the
chunks themselves are cut out of the line only for the preferred cut (`Piece.chunks`).

`allBlanks` stands for `blanks` where the next piece cannot begin with a blank: a token that
does not, a run of brackets, or the end of the line. A shorter run would leave a blank in front
of that piece, so only the whole run can lead to a fit, and the preferred cut is the same. For
the same reason `closers` takes its run whole: in a statement form it is followed by blanks and
a token that does not begin with a bracket, or by the end of the line.
-/

namespace Flowchart

inductive Piece where
  | blanks
  | allBlanks
  | token (text : List Char)
  | text
  | openers
  | closers
  deriving DecidableEq, Repr

namespace Piece

def isOpener (c : Char) : Bool := c == '[' || c == '('

def isCloser (c : Char) : Bool := c == ']' || c == ')'

def spanWhile (p : Char → Bool) (n : Nat) : List Char → Nat × List Char
  | c :: cs => if p c then spanWhile p (n + 1) cs else (n, c :: cs)
  | [] => (n, [])

/-- Tries `attempt` on the chunks of a run of characters satisfying `p`, longest first, and gives
its first answer. The run continues `i` characters already taken; `attempt n rest` is given the
length `n` of a chunk and the text `rest` after it. -/
def longestFirst (p : Char → Bool) (attempt : Nat → List Char → Option α) (i : Nat) :
    List Char → Option α
  | [] => attempt i []
  | c :: cs =>
    if p c then
      match longestFirst p attempt (i + 1) cs with
      | some r => some r
      | none => attempt i (c :: cs)
    else attempt i (c :: cs)

/-- Tries `attempt` on the chunks of a run of characters satisfying `p`, shortest first, and
gives its first answer. The run continues `i` characters already taken. -/
def shortestFirst (p : Char → Bool) (attempt : Nat → List Char → Option α) (i : Nat) :
    List Char → Option α
  | [] => attempt i []
  | c :: cs =>
    match attempt i (c :: cs) with
    | some r => some r
    | none => if p c then shortestFirst p attempt (i + 1) cs else none

/-- Tries `attempt` on the chunks of a run of one or more characters satisfying `p` at the front
of `cs`, in the given order. -/
def nonEmptyRun (p : Char → Bool) (longest : Bool) (attempt : Nat → List Char → Option α) :
    List Char → Option α
  | c :: cs =>
    if p c then
      if longest then longestFirst p attempt 1 cs else shortestFirst p attempt 1 cs
    else none
  | [] => none

/-- Tries `attempt` on the chunks a piece can take off the front of `cs`, best first, and gives
its first answer. -/
def search (attempt : Nat → List Char → Option α) (cs : List Char) : Piece → Option α
  | blanks => longestFirst Text.isBlank attempt 0 cs
  | allBlanks => let (n, rest) := spanWhile Text.isBlank 0 cs; attempt n rest
  | token t => if t.isPrefixOf cs then attempt t.length (cs.drop t.length) else none
  | text => nonEmptyRun (· != '\n') false attempt cs
  | openers => nonEmptyRun isOpener true attempt cs
  | closers => let (n, rest) := spanWhile isCloser 0 cs; if n = 0 then none else attempt n rest

/-- The lengths of the chunks of the preferred cut of `cs`, one per piece, with nothing left
over. -/
def split? : List Piece → List Char → Option (List Nat)
  | [], cs => if cs.isEmpty then some [] else none
  | p :: ps, cs => p.search (fun n rest => (split? ps rest).map (n :: ·)) cs

def chunks : List Nat → List Char → List (List Char)
  | [], _ => []
  | n :: ns, cs => cs.take n :: chunks ns (cs.drop n)

def keeps : Piece → Bool
  | text | openers => true
  | blanks | allBlanks | token _ | closers => false

def kept (ps : List Piece) (chunks : List (List Char)) : List (List Char) :=
  (ps.zip chunks).filterMap fun (p, chunk) => if p.keeps then some chunk else none

end Piece

end Flowchart
