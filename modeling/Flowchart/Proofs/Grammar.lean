import Flowchart.Statement

/-!
# The grammar of statements

A reading of a line stated without any search. A statement form is a sequence of parts, as in a
pattern that must match the whole line:

* `blanks`: a run of blank characters, possibly empty;
* `token t`: exactly the text `t`;
* `text`: one or more characters other than a line feed;
* `openers`: one or more of `[` and `(`;
* `closers`: one or more of `]` and `)`.

A cut of a line is one chunk per part, each accepted by its part, that together spell the line.
Free text prefers its shorter chunks and every other part its longer ones, and cuts are ordered by
the first part at which they differ. A line is read with the first form that has a cut, at the
least cut of that form; the reading is refused when an id of that cut is blank, and the later
forms are then not tried.
-/

namespace Flowchart

inductive Part where
  | blanks
  | token (text : List Char)
  | text
  | openers
  | closers
  deriving DecidableEq, Repr

namespace Part

/-- The chunks a part accepts. -/
def Accepts : Part → List Char → Prop
  | blanks, w => ∀ c ∈ w, Text.isBlank c
  | token t, w => w = t
  | text, w => w ≠ [] ∧ '\n' ∉ w
  | openers, w => w ≠ [] ∧ ∀ c ∈ w, Piece.isOpener c
  | closers, w => w ≠ [] ∧ ∀ c ∈ w, Piece.isCloser c

/-- Whether a part prefers a chunk of length `m` to one of length `n`. -/
def Prefers : Part → Nat → Nat → Prop
  | text, m, n => m < n
  | _, m, n => n < m

theorem prefers_irrefl (p : Part) (n : Nat) : ¬ p.Prefers n n := by
  cases p <;> simp [Prefers]

theorem prefers_asymm {p : Part} {m n : Nat} (h : p.Prefers m n) : ¬ p.Prefers n m := by
  cases p <;> simp only [Prefers] at h ⊢ <;> omega

def keeps : Part → Bool
  | text | openers => true
  | blanks | token _ | closers => false

def canBegin (c : Char) : List Part → Bool
  | [] => false
  | blanks :: ps => Text.isBlank c || canBegin c ps
  | token [] :: ps => canBegin c ps
  | token (d :: _) :: _ => c == d
  | text :: _ => c != '\n'
  | openers :: _ => Piece.isOpener c
  | closers :: _ => Piece.isCloser c

end Part

/-- `ws` cuts `cs` into one chunk for each of the parts `ps`, each accepted by its part. -/
inductive IsCut : List Part → List Char → List (List Char) → Prop
  | nil : IsCut [] [] []
  | cons {p : Part} {ps : List Part} {w rest : List Char} {ws : List (List Char)} :
      p.Accepts w → IsCut ps rest ws → IsCut (p :: ps) (w ++ rest) (w :: ws)

/-- `ws` comes before `ws'`: at the first part where their chunks differ, the part prefers the
chunk of `ws`. -/
inductive Precedes : List Part → List (List Char) → List (List Char) → Prop
  | here {p : Part} {ps : List Part} {w w' : List Char} {ws ws' : List (List Char)} :
      p.Prefers w.length w'.length → Precedes (p :: ps) (w :: ws) (w' :: ws')
  | later {p : Part} {ps : List Part} {w : List Char} {ws ws' : List (List Char)} :
      Precedes ps ws ws' → Precedes (p :: ps) (w :: ws) (w :: ws')

/-- The cut of `cs` that comes before every other. -/
def IsLeastCut (ps : List Part) (cs : List Char) (ws : List (List Char)) : Prop :=
  IsCut ps cs ws ∧ ∀ ws', IsCut ps cs ws' → ws' = ws ∨ Precedes ps ws ws'

def keptChunks (ps : List Part) (ws : List (List Char)) : List (List Char) :=
  (ps.zip ws).filterMap fun (p, w) => if p.keeps then some w else none

namespace IsCut

theorem canBegin {ps : List Part} {c : Char} {rest : List Char} {ws : List (List Char)}
    (h : IsCut ps (c :: rest) ws) : Part.canBegin c ps = true := by
  generalize hcs : c :: rest = cs at h
  induction h generalizing rest with
  | nil => cases hcs
  | @cons p ps w rest' ws hw _ ih =>
      cases w with
      | nil =>
          have hnext := ih hcs
          cases p with
          | blanks => simp [Part.canBegin, hnext]
          | token t =>
              cases hw
              simpa [Part.canBegin] using hnext
          | text => exact absurd rfl hw.1
          | openers => exact absurd rfl hw.1
          | closers => exact absurd rfl hw.1
      | cons d w =>
          obtain ⟨rfl, -⟩ := List.cons.inj hcs
          cases p with
          | blanks => simp [Part.canBegin, hw c (by simp)]
          | token t =>
              cases hw
              simp [Part.canBegin]
          | text =>
              have hc : c ≠ '\n' := fun hc => hw.2 (by simp [hc])
              simp [Part.canBegin, hc]
          | openers => simp [Part.canBegin, hw.2 c (by simp)]
          | closers => simp [Part.canBegin, hw.2 c (by simp)]

end IsCut

namespace Precedes

theorem asymm {ps : List Part} {ws ws' : List (List Char)} (h : Precedes ps ws ws') :
    ¬ Precedes ps ws' ws := by
  induction h with
  | here hp =>
      intro h'
      cases h' with
      | here hp' => exact Part.prefers_asymm hp hp'
      | later _ => exact Part.prefers_irrefl _ _ hp
  | later _ ih =>
      intro h'
      cases h' with
      | here hp' => exact Part.prefers_irrefl _ _ hp'
      | later h' => exact ih h'

end Precedes

theorem IsLeastCut.unique {ps : List Part} {cs : List Char} {ws ws' : List (List Char)}
    (h : IsLeastCut ps cs ws) (h' : IsLeastCut ps cs ws') : ws = ws' := by
  rcases h.2 ws' h'.1 with heq | hlt
  · exact heq.symm
  · rcases h'.2 ws h.1 with heq | hgt
    · exact heq
    · exact absurd hgt hlt.asymm

namespace Form

/-- A declared endpoint after its id: a dash, opening marker, label and closing brackets. -/
def shapedParts : List Part :=
  [.blanks, .token ['-'], .blanks, .openers, .text, .closers]

/-- The parts of a form, with blanks allowed around every token. -/
def parts : Form → List Part
  | full =>
    [.text] ++ shapedParts ++ [.blanks, .token "-->".toList, .blanks, .text] ++ shapedParts
  | simple => [.text, .blanks, .token "-->".toList, .blanks, .text] ++ shapedParts
  | reverse =>
    [.text] ++ shapedParts ++ [.blanks, .token "<--".toList, .blanks, .text, .blanks]

end Form

/-- How a line is read with the forms `fs`, tried in order: by the first form with a cut, at its
least cut, refused when that cut leaves an id blank. -/
inductive Reads : List Form → List Char → Option Statement → Prop
  | none {cs : List Char} : Reads [] cs none
  | first {f : Form} {fs : List Form} {cs : List Char} {ws : List (List Char)} :
      IsLeastCut f.parts cs ws →
      Reads (f :: fs) cs ((f.statement? (keptChunks f.parts ws)).filter Statement.hasIds)
  | next {f : Form} {fs : List Form} {cs : List Char} {r : Option Statement} :
      (∀ ws, ¬ IsCut f.parts cs ws) → Reads fs cs r → Reads (f :: fs) cs r

theorem Reads.unique {fs : List Form} {cs : List Char} {r r' : Option Statement}
    (h : Reads fs cs r) (h' : Reads fs cs r') : r = r' := by
  induction h with
  | none => cases h'; rfl
  | first hleast =>
      cases h' with
      | first hleast' => rw [hleast.unique hleast']
      | next hnone _ => exact absurd hleast.1 (hnone _)
  | next hnone _ ih =>
      cases h' with
      | first hleast' => exact absurd hleast'.1 (hnone _)
      | next _ hr' => exact ih hr'

end Flowchart
