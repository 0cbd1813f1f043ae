import Courier.Yaml.Cursor

/-!
# Plain scalars

A scalar without quotes ends where something of the structure begins: at a colon before a gap, at a
comment, within brackets at a comma or bracket, and outside of them at a line that is not indented
further than the collection around it. Line ends are folded as within quotes.
-/

namespace Courier.Yaml

/-- The signs that end a plain scalar between brackets. -/
def bracketSigns : List Char := [',', '?', '[', ']', '\x7b', '\x7d']

/-- The signs that make a structure of a colon before them between brackets. -/
def colonFollowers : List Char := [',', '[', ']', '\x7b', '\x7d']

/-- The word of a plain scalar at the beginning of a text. -/
def plainWord (bracketed : Bool) : List Char → List Char
  | [] => []
  | ch :: rest =>
    if isGap ch then []
    else if ch == ':' &&
        (wordEnds rest.head? || (bracketed && rest.head?.any colonFollowers.contains)) then []
    else if bracketed && bracketSigns.contains ch then []
    else ch :: plainWord bracketed rest

/-- What comes between two words of a plain scalar. -/
structure PlainGap where
  /-- What the gap is read as; nothing if the scalar cannot go on. -/
  text : List Char
  after : Cursor
  crossesLine : Bool

/-- The line ends and spaces that come next, as many as `fuel` allows; nothing before a mark between
documents. -/
def plainBreaks? : Nat → Cursor → Option (List Char) × Cursor
  | 0, c => (some [], c)
  | fuel + 1, c =>
    if c.sees ' ' then plainBreaks? fuel c.step
    else match c.lineBreak with
      | ([], _) => (some [], c)
      | (line, c) =>
        if c.seesDocumentMark then (none, c)
        else
          let (more, c) := plainBreaks? fuel c
          (more.map (line ++ ·), c)

/-- The gap that comes next. -/
def plainGap (c : Cursor) : PlainGap :=
  let (spaces, c) := c.span (· == ' ')
  match c.lineBreak with
  | ([], _) => ⟨spaces, c, false⟩
  | (line, c) =>
    if c.seesDocumentMark then ⟨[], c, true⟩
    else match plainBreaks? (c.rest.length + 1) c with
      | (none, c) => ⟨[], c, true⟩
      | (some more, c) =>
        if line != ['\n'] then ⟨line ++ more, c, true⟩
        else if more.isEmpty then ⟨[' '], c, true⟩
        else ⟨more, c, true⟩

/-- A plain scalar: its text, the place after it and the gap that follows, and whether that gap
crosses a line. -/
structure PlainScalar where
  text : List Char
  after : Cursor
  crossesLine : Bool

/-- The plain scalar from some place on, after a gap that is read as `gap`, with as many words as
`fuel` allows. -/
def plainFrom (bracketed : Bool) (indent : Int) :
    Nat → List Char → Cursor → Bool → PlainScalar
  | 0, _, c, crossed => ⟨[], c, crossed⟩
  | fuel + 1, gap, c, crossed =>
    let word := if c.sees '#' then [] else plainWord bracketed c.rest
    if word.isEmpty then ⟨[], c, crossed⟩
    else
      let next := plainGap (c.skip word.length)
      if next.text.isEmpty || next.after.sees '#' ||
          (!bracketed && (next.after.column : Int) < indent) then
        ⟨gap ++ word, next.after, next.crossesLine⟩
      else
        let more := plainFrom bracketed indent fuel next.text next.after next.crossesLine
        ⟨gap ++ word ++ more.text, more.after, more.crossesLine⟩

/-- The plain scalar that begins at a place, within a collection indented by one less than
`indent`. -/
def plainScalar (bracketed : Bool) (indent : Int) (c : Cursor) : PlainScalar :=
  plainFrom bracketed indent (c.rest.length + 1) [] c false

end Courier.Yaml
