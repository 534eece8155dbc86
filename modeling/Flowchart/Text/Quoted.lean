import Flowchart.Text.Printable

/-!
# Quoted values

How messages show a text value. It stands between single quotes, or between double quotes when
it holds a single quote and no double quote. Inside, the backslash and the chosen quote are
escaped, tab, line feed and carriage return get their short escapes, and every other character
that is not printable is written by its code point: `\x` and two hex digits up to U+00FF, `\u`
and four up to U+FFFF, `\U` and eight beyond, all in lowercase.

Which characters beyond ASCII are printable is `isPrintable`.
-/

namespace Flowchart.Text

def lowerHex (n : Nat) : Char := Nat.digitChar (n % 16)

def hexDigits (width n : Nat) : List Char :=
  (List.range width).reverse.map fun i => lowerHex (n / Nat.pow 16 i)

/-- How one character of the value is written between the quotes `q`. -/
def quotedChar (q c : Char) : List Char :=
  if c == q || c == '\\' then ['\\', c]
  else if c == '\t' then ['\\', 't']
  else if c == '\n' then ['\\', 'n']
  else if c == '\r' then ['\\', 'r']
  else if c.toNat < 0x7F && 0x20 ≤ c.toNat then [c]
  else if 0x7F ≤ c.toNat && isPrintable c then [c]
  else if c.toNat ≤ 0xFF then '\\' :: 'x' :: hexDigits 2 c.toNat
  else if c.toNat ≤ 0xFFFF then '\\' :: 'u' :: hexDigits 4 c.toNat
  else '\\' :: 'U' :: hexDigits 8 c.toNat

/-- A text value between quotes, as messages show it. -/
def quoted (s : String) : String :=
  let cs := s.toList
  let q := if cs.contains '\'' && !cs.contains '"' then '"' else '\''
  String.ofList (q :: cs.flatMap (quotedChar q) ++ [q])

end Flowchart.Text
