/-!
# Text streams

What text streams do to the text that passes through them.

Read in text mode, a stream ends every line with a line feed: a carriage return followed by a
line feed, and a carriage return alone, both become one line feed. Captured output is read back
with only the pairs of a carriage return and a line feed made one line feed.

Written to a stream that is not a terminal, text loses its terminal control sequences: an
escape character and an opening square bracket, then any run of parameter bytes (`0` to `?`),
then any run of intermediate bytes (space to `/`), then one final byte (`@` to `~`). Sequences
are removed from left to right; an escape that does not begin a complete sequence stays.
-/

namespace Flowchart.Text

/-- Turns every carriage return, with the line feed after it if there is one, into a line
feed. -/
def unifyLineEnds : List Char → List Char
  | '\r' :: '\n' :: cs => '\n' :: unifyLineEnds cs
  | '\r' :: cs => '\n' :: unifyLineEnds cs
  | c :: cs => c :: unifyLineEnds cs
  | [] => []

/-- Turns every carriage return followed by a line feed into one line feed. -/
def joinLineEnds : List Char → List Char
  | '\r' :: '\n' :: cs => '\n' :: joinLineEnds cs
  | c :: cs => c :: joinLineEnds cs
  | [] => []

def isParameterByte (c : Char) : Bool := 0x30 ≤ c.toNat && c.toNat ≤ 0x3F

def isIntermediateByte (c : Char) : Bool := 0x20 ≤ c.toNat && c.toNat ≤ 0x2F

def isFinalByte (c : Char) : Bool := 0x40 ≤ c.toNat && c.toNat ≤ 0x7E

def startWith (c : Char) : List Char × List Char :=
  if c == '\x1b' then ([], ['\x1b']) else ([c], [])

/-- Reading `c` while `held`, newest first, is the beginning of a control sequence. A final
byte ends the sequence, which is dropped; an intermediate byte, or a parameter byte before any
intermediate one, is held; any other character gives the held ones back and is read afresh,
since only an escape can begin the next sequence. -/
def styleStep (held : List Char) (c : Char) : List Char × List Char :=
  match held with
  | [] => startWith c
  | [e] =>
    if c == '[' then ([], ['[', e])
    else
      let (kept, held') := startWith c
      (e :: kept, held')
  | last :: _ =>
    if isFinalByte c then ([], [])
    else if isIntermediateByte c || (isParameterByte c && !isIntermediateByte last) then
      ([], c :: held)
    else
      let (kept, held') := startWith c
      (held.reverse ++ kept, held')

def stripStylesFrom (held : List Char) : List Char → List Char
  | [] => held.reverse
  | c :: cs =>
    let (kept, held') := styleStep held c
    kept ++ stripStylesFrom held' cs

/-- Removes the terminal control sequences, from left to right. -/
def stripStyles (cs : List Char) : List Char := stripStylesFrom [] cs

end Flowchart.Text
