import Flowchart.Text.Blank
import Flowchart.Text.Digit

/-!
# Integer text

How the command line reads an integer option. The text may be written with the decimal digits of
any script and surrounded by blanks; a sign may lead, and a single underscore may stand between
two digits.

Reading goes in two steps. First every character from DEL up is brought to ASCII: a blank
becomes a space and a decimal digit becomes the ASCII digit of the same value; any other such
character makes the text unreadable. The ASCII text is then read: spaces, tabs, line feeds,
vertical tabs, form feeds and carriage returns around it are skipped (the information separators
U+001C to U+001F are not), then come an optional `+` or `-` and groups of digits joined by single
underscores. A number of more than `maxDigits` digits, leading zeros included, is refused.
-/

namespace Flowchart.Text

/-- The ASCII character that a character of integer text stands for, if it stands for one. -/
def asciiNumeral? (c : Char) : Option Char :=
  if c.toNat < 0x7F then some c
  else if isBlank c then some ' '
  else (decimalValue? c).map fun d => Char.ofNat (0x30 + d)

def isAsciiSpace (c : Char) : Bool :=
  c == ' ' || c == '\t' || c == '\n' || c == '\x0b' || c == '\x0c' || c == '\r'

def maxDigits : Nat := 4300

/-- The value of digits in groups joined by single underscores, if the text has that form and
at most `maxDigits` digits. -/
def groupedDigits? (cs : List Char) : Option Nat :=
  let groups := cs.splitOn '_'
  if (groups.all fun g => !g.isEmpty && g.all Char.isDigit) && groups.flatten.length ≤ maxDigits
  then some (groups.flatten.foldl (fun n d => 10 * n + (d.toNat - 0x30)) 0)
  else none

def readAsciiInt? (cs : List Char) : Option Int :=
  match ((cs.dropWhile isAsciiSpace).reverse.dropWhile isAsciiSpace).reverse with
  | '-' :: ds => (groupedDigits? ds).map fun n => -(n : Int)
  | '+' :: ds => (groupedDigits? ds).map fun n => (n : Int)
  | ds => (groupedDigits? ds).map fun n => (n : Int)

/-- Reads integer text. -/
def readInt? (s : String) : Option Int :=
  (s.toList.mapM asciiNumeral?).bind readAsciiInt?

end Flowchart.Text
