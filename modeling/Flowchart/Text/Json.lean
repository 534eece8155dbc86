/-!
# JSON text

The JSON values a chart is written with, and their text in ASCII.

Strings are written in ASCII only: a quote and a backslash are escaped, the line feed, carriage
return, tab, backspace and form feed by their short escapes, every other character outside the
printable ASCII range (U+0020 to U+007E) as a `\u` escape of four lowercase hex digits, and a
character beyond the basic plane as the escapes of its two UTF-16 surrogates.

Values are laid out in one of two styles. `flat` writes everything on one line with a comma and
a space between items and a colon and a space after a key. `indented k` puts each item of a
non-empty array or object on its own line, `k` spaces deeper than the bracket around it, with a
bare comma at the end of each item but the last; empty arrays and objects stay `[]` and `{}`.
-/

namespace Flowchart.Text

/-- A JSON value made of strings, integers, arrays and objects with ordered keys. -/
inductive Json where
  | str (s : String)
  | int (i : Int)
  | arr (items : List Json)
  | obj (fields : List (String × Json))
  deriving Repr

/-- The layout of JSON text: everything on one line, or one item a line. -/
inductive JsonStyle where
  | flat
  | indented (width : Nat)
  deriving DecidableEq, Repr

namespace Json

def hexDigit (n : Nat) : Char := Nat.digitChar (n % 16)

def unitEscape (u : Nat) : List Char :=
  ['\\', 'u', hexDigit (u / 4096), hexDigit (u / 256), hexDigit (u / 16), hexDigit u]

/-- The ASCII text that stands for one character inside a string. -/
def escapeChar (c : Char) : List Char :=
  match c with
  | '"' => ['\\', '"']
  | '\\' => ['\\', '\\']
  | '\n' => ['\\', 'n']
  | '\r' => ['\\', 'r']
  | '\t' => ['\\', 't']
  | '\x08' => ['\\', 'b']
  | '\x0c' => ['\\', 'f']
  | _ =>
    if 0x20 ≤ c.toNat ∧ c.toNat ≤ 0x7E then [c]
    else if c.toNat < 0x10000 then unitEscape c.toNat
    else
      let v := c.toNat - 0x10000
      unitEscape (0xD800 + v / 0x400) ++ unitEscape (0xDC00 + v % 0x400)

/-- A string literal, in ASCII. -/
def quote (s : String) : String :=
  String.ofList ('"' :: (s.toList.flatMap escapeChar ++ ['"']))

def newline (width depth : Nat) : String :=
  "\n" ++ String.ofList (List.replicate (width * depth) ' ')

/-- Brackets a non-empty list of item texts at depth `depth`. -/
def enclose (style : JsonStyle) (depth : Nat) (opening closing : String) (items : List String) :
    String :=
  match style with
  | .flat => opening ++ ", ".intercalate items ++ closing
  | .indented w =>
    opening ++ newline w (depth + 1) ++ ("," ++ newline w (depth + 1)).intercalate items ++
      newline w depth ++ closing

mutual

/-- The text of a value whose brackets sit at depth `depth`. -/
def render (style : JsonStyle) (depth : Nat) : Json → String
  | .str s => quote s
  | .int i => toString i
  | .arr [] => "[]"
  | .arr items => enclose style depth "[" "]" (renderItems style depth items)
  | .obj [] => "\x7b\x7d"
  | .obj fields => enclose style depth "\x7b" "\x7d" (renderFields style depth fields)

def renderItems (style : JsonStyle) (depth : Nat) : List Json → List String
  | [] => []
  | j :: js => render style (depth + 1) j :: renderItems style depth js

def renderFields (style : JsonStyle) (depth : Nat) : List (String × Json) → List String
  | [] => []
  | (k, v) :: fs => (quote k ++ ": " ++ render style (depth + 1) v) :: renderFields style depth fs

end

def write (style : JsonStyle) (j : Json) : String := render style 0 j

end Json

end Flowchart.Text
