import Courier.Json.Text
import Courier.Text.Compose
import Courier.Value.Whole

/-!
# Documents from text

`Json.read?` reads a document that was written on one line or spread over several. Numbers with a
point or an exponent, and the names of numbers that are none, are read as floating point; all other
numbers are integers.

A reader answers with what it read and what is left of the text.
-/

namespace Courier.Json

/-- The text without the blanks at its start. -/
def skipBlanks (cs : List Char) : List Char :=
  cs.dropWhile fun c => c == ' ' || c == '\n' || c == '\r' || c == '\t'

/-- The unit of sixteen bits that four digits name. -/
def unit? : List Char → Option (Nat × List Char)
  | a :: b :: c :: d :: rest =>
    if [a, b, c, d].all fun c => c.isDigit || ('a' ≤ c && c ≤ 'f') then
      some (Text.hexValue [a, b, c, d], rest)
    else none
  | _ => none

/-- The character that an escape names, after the backslash. -/
def escaped? : List Char → Option (Char × List Char)
  | 'u' :: rest =>
    match unit? rest with
    | none => none
    | some (high, rest) =>
      match rest with
      | '\\' :: 'u' :: more =>
        match unit? more with
        | some (low, after) =>
          if 0xd800 ≤ high && high < 0xdc00 && 0xdc00 ≤ low && low < 0xe000 then
            some (Char.ofNat (0x10000 + (high - 0xd800) * 0x400 + (low - 0xdc00)), after)
          else some (Char.ofNat high, rest)
        | none => some (Char.ofNat high, rest)
      | _ => some (Char.ofNat high, rest)
  | 'n' :: rest => some ('\n', rest)
  | 'r' :: rest => some ('\r', rest)
  | 't' :: rest => some ('\t', rest)
  | 'b' :: rest => some (Char.ofNat 8, rest)
  | 'f' :: rest => some (Char.ofNat 12, rest)
  | c :: rest => if c == '"' || c == '\\' || c == '/' then some (c, rest) else none
  | [] => none

/-- A text after its opening quote, of at most `fuel` characters. -/
def textFrom : Nat → List Char → Option (List Char × List Char)
  | 0, _ => none
  | _ + 1, '"' :: rest => some ([], rest)
  | fuel + 1, '\\' :: rest => do
    let (c, rest) ← escaped? rest
    let (more, after) ← textFrom fuel rest
    return (c :: more, after)
  | fuel + 1, c :: rest => do
    let (more, after) ← textFrom fuel rest
    return (c :: more, after)
  | _ + 1, [] => none

/-- Whether a character may stand in a number or in a name. -/
def isBare (c : Char) : Bool := c.isAlphanum || c == '-' || c == '+' || c == '.'

/-- The document that a number or a name stands for. -/
def bare? (cs : List Char) : Option Json :=
  match String.ofList cs with
  | "null" => some null
  | "true" => some (bool true)
  | "false" => some (bool false)
  | "NaN" => some (float .nan)
  | "Infinity" => some (float (.infinite false))
  | "-Infinity" => some (float (.infinite true))
  | s =>
    if cs.any fun c => c == '.' || c == 'e' || c == 'E' then (Double.read? cs).map float
    else (Text.whole? s).toOption.map int

mutual

/-- A document with at most `fuel` parts. -/
def documentFrom : Nat → List Char → Option (Json × List Char)
  | 0, _ => none
  | fuel + 1, cs =>
    match skipBlanks cs with
    | '"' :: rest => (textFrom (rest.length + 1) rest).map fun p => (text (String.ofList p.1), p.2)
    | '[' :: rest =>
      match skipBlanks rest with
      | ']' :: after => some (list [], after)
      | rest => (itemsFrom fuel rest).map fun p => (list p.1, p.2)
    | '\x7b' :: rest =>
      match skipBlanks rest with
      | '\x7d' :: after => some (object [], after)
      | rest => (membersFrom fuel rest).map fun p => (object p.1, p.2)
    | cs => (bare? (cs.takeWhile isBare)).map fun j => (j, cs.dropWhile isBare)

/-- The items of a list, up to its closing bracket. -/
def itemsFrom : Nat → List Char → Option (List Json × List Char)
  | 0, _ => none
  | fuel + 1, cs => do
    let (j, rest) ← documentFrom fuel cs
    match skipBlanks rest with
    | ',' :: rest =>
      let (more, after) ← itemsFrom fuel rest
      return (j :: more, after)
    | ']' :: after => return ([j], after)
    | _ => none

/-- The members of an object, up to its closing brace. -/
def membersFrom : Nat → List Char → Option (List (String × Json) × List Char)
  | 0, _ => none
  | fuel + 1, cs => do
    let (name, rest) ← documentFrom fuel cs
    match name, skipBlanks rest with
    | text name, ':' :: rest =>
      let (j, rest) ← documentFrom fuel rest
      match skipBlanks rest with
      | ',' :: rest =>
        let (more, after) ← membersFrom fuel rest
        return ((name, j) :: more, after)
      | '\x7d' :: after => return ([(name, j)], after)
      | _ => none
    | _, _ => none

end

/-- The document that a text holds, and nothing else. -/
def read? (s : String) : Option Json :=
  match documentFrom (2 * s.length + 2) s.toList with
  | some (j, rest) => if (skipBlanks rest).isEmpty then some j else none
  | none => none

end Courier.Json
