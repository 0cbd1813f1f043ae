import Courier.Yaml.Cursor
import Courier.Yaml.Fault

/-!
# Quoted scalars

A scalar between quotes may run over several lines: blanks around a line end are dropped, a single
line end is read as a space, and of several line ends all but the first are kept. Between double
quotes a backslash begins an escape; between single quotes two quotes stand for one.
-/

namespace Courier.Yaml

/-- The text of a scalar and the place after it. -/
abbrev Read := Except Fault (List Char × Cursor)

/-- The characters that one sign after a backslash stands for. -/
def escapes : List (Char × Char) :=
  [('0', '\x00'), ('a', '\x07'), ('b', '\x08'), ('t', '\t'), ('\t', '\t'), ('n', '\n'),
    ('v', '\x0b'), ('f', '\x0c'), ('r', '\r'), ('e', '\x1b'), (' ', ' '), ('"', '"'),
    ('\\', '\\'), ('/', '/'), ('N', '\x85'), ('_', '\xa0'), ('L', '\u2028'), ('P', '\u2029')]

/-- How many digits follow a sign that begins a numbered escape. -/
def escapeWidths : List (Char × Nat) := [('x', 2), ('u', 4), ('U', 8)]

/-- Whether a character is a digit to the base sixteen. -/
def isHexDigit (c : Char) : Bool :=
  c.isDigit || ('a' ≤ c && c ≤ 'f') || ('A' ≤ c && c ≤ 'F')

/-- The value of a digit to the base sixteen. -/
def hexValue (c : Char) : Nat :=
  if c.isDigit then c.toNat - 48 else c.toLower.toNat - 87

/-- The character with a number; a number without a character of its own is read as the mark for
unknown characters. -/
def numbered (n : Nat) : Except Fault Char :=
  if 0x10ffff < n then .error .noCharacter
  else if 0xd800 ≤ n && n ≤ 0xdfff then .ok '\ufffd'
  else .ok (Char.ofNat n)

/-- The line ends that come next, with the blanks around them, as many as `fuel` allows. -/
def breaksFrom : Nat → Cursor → Read
  | 0, c => .ok ([], c)
  | fuel + 1, c =>
    if c.seesDocumentMark then .error .documentMark
    else
      let c := c.skipWhile isSpace
      match c.lineBreak with
      | ([], _) => .ok ([], c)
      | (line, c) => do
        let (more, c) ← breaksFrom fuel c
        return (line ++ more, c)

/-- The line ends that come next, with the blanks around them. -/
def breaks (c : Cursor) : Read := breaksFrom (c.rest.length + 1) c

/-- What blanks and line ends within a scalar stand for. -/
def folded (c : Cursor) : Read :=
  let (blanks, c) := c.span isSpace
  match c.lineBreak with
  | ([], _) => if c.rest.isEmpty then .error .unfinished else .ok (blanks, c)
  | (line, c) => do
    let (more, c) ← breaks c
    if line != ['\n'] then return (line ++ more, c)
    else if more.isEmpty then return ([' '], c)
    else return (more, c)

/-- What an escape stands for; the place is that after the backslash. -/
def escape (c : Cursor) : Read :=
  match c.rest with
  | [] => .error .unknownEscape
  | sign :: rest =>
    match escapes.lookup sign, escapeWidths.lookup sign with
    | some ch, _ => .ok ([ch], c.step)
    | none, some width =>
      let digits := rest.take width
      if digits.length == width && digits.all isHexDigit then do
        let ch ← numbered (digits.foldl (fun n d => 16 * n + hexValue d) 0)
        return ([ch], c.skip (width + 1))
      else .error .unknownEscape
    | none, none => if isBreak sign then breaks c.lineBreak.2 else .error .unknownEscape

/-- One piece of a scalar between double quotes, or between single ones, and the place after it;
nothing at the closing quote. -/
def piece? (double : Bool) (c : Cursor) : Except Fault (Option (List Char × Cursor)) :=
  match c.rest with
  | [] => .error .unfinished
  | ch :: rest =>
    if isGap ch then (folded c).map some
    else if double then
      if ch == '"' then .ok none
      else if ch == '\\' then (escape c.step).map some
      else .ok (some ([ch], c.step))
    else if ch == '\'' then
      .ok (if rest.head? == some '\'' then some (['\''], c.skip 2) else none)
    else .ok (some ([ch], c.step))

/-- The pieces up to the closing quote, as many as `fuel` allows. -/
def quotedFrom (double : Bool) : Nat → Cursor → Read
  | 0, _ => .error .unfinished
  | fuel + 1, c => do
    match ← piece? double c with
    | none => return ([], c.step)
    | some (text, c) =>
      let (more, c) ← quotedFrom double fuel c
      return (text ++ more, c)

/-- A quoted scalar; the place is that of the opening quote. -/
def quotedScalar (double : Bool) (c : Cursor) : Read :=
  quotedFrom double (c.rest.length + 1) c.step

end Courier.Yaml
