import Courier.Json.Basic

/-!
# The text of a document

`Json.line` writes a document on one line, and `Json.page` spreads it over lines with indented
members. Quotes, backslashes and control characters are escaped; a page escapes every character
beyond ASCII too, in units of sixteen bits.
-/

namespace Courier.Json

/-- The escape of one unit of sixteen bits. -/
def unitEscape (n : Nat) : String := "\\u" ++ Text.hex 4 n

/-- The escape of a character beyond ASCII: one unit, or two for a character above the first
plane. -/
def foreignEscape (c : Char) : String :=
  let n := c.toNat
  if n < 0x10000 then unitEscape n
  else unitEscape (0xd800 + (n - 0x10000) / 0x400) ++ unitEscape (0xdc00 + (n - 0x10000) % 0x400)

/-- One character of a text. -/
def charText (asciiOnly : Bool) (c : Char) : String :=
  if c == '"' then "\\\"" else if c == '\\' then "\\\\"
  else if c == '\n' then "\\n" else if c == '\r' then "\\r" else if c == '\t' then "\\t"
  else if c.toNat == 8 then "\\b" else if c.toNat == 12 then "\\f"
  else if c.toNat < 32 then unitEscape c.toNat
  else if asciiOnly && 127 < c.toNat then foreignEscape c
  else String.singleton c

/-- A text between double quotes. -/
def textText (asciiOnly : Bool) (s : String) : String :=
  "\"" ++ String.join (s.toList.map (charText asciiOnly)) ++ "\""

/-- A number; the infinities and what is not a number are written by name. -/
def floatText : Double → String
  | .nan => "NaN"
  | .infinite s => if s then "-Infinity" else "Infinity"
  | x => x.text

mutual

/-- A document on one line. -/
def line : Json → String
  | null => "null"
  | bool b => if b then "true" else "false"
  | int n => Value.intText n
  | float x => floatText x
  | text s => textText false s
  | list xs => "[" ++ ", ".intercalate (lines xs) ++ "]"
  | object ms => "\x7b" ++ ", ".intercalate (memberLines ms) ++ "\x7d"

/-- Several documents, each on one line. -/
def lines : List Json → List String
  | [] => []
  | x :: xs => line x :: lines xs

/-- The members of an object, each on one line. -/
def memberLines : List (String × Json) → List String
  | [] => []
  | (name, j) :: ms => (textText false name ++ ": " ++ line j) :: memberLines ms

end

/-- The start of a line at a depth, two spaces for each level. -/
def indent (depth : Nat) : String := "\n" ++ String.ofList (List.replicate (2 * depth) ' ')

/-- Items between brackets, each on a line of its own. -/
def spread (opening closing : String) (depth : Nat) (items : List String) : String :=
  if items.isEmpty then opening ++ closing
  else opening ++ indent (depth + 1) ++ ("," ++ indent (depth + 1)).intercalate items ++
    indent depth ++ closing

mutual

/-- A document over several lines, starting at a depth. -/
def pageAt (depth : Nat) : Json → String
  | null => "null"
  | bool b => if b then "true" else "false"
  | int n => Value.intText n
  | float x => floatText x
  | text s => textText true s
  | list xs => spread "[" "]" depth (pagesAt (depth + 1) xs)
  | object ms => spread "\x7b" "\x7d" depth (memberPagesAt (depth + 1) ms)

/-- Several documents at a depth. -/
def pagesAt (depth : Nat) : List Json → List String
  | [] => []
  | x :: xs => pageAt depth x :: pagesAt depth xs

/-- The members of an object at a depth. -/
def memberPagesAt (depth : Nat) : List (String × Json) → List String
  | [] => []
  | (name, j) :: ms =>
    (textText true name ++ ": " ++ pageAt depth j) :: memberPagesAt depth ms

end

/-- A document over several lines. -/
def page : Json → String := pageAt 0

end Courier.Json
