import Courier.Yaml.Block
import Courier.Yaml.Plain

/-!
# Tokens of YAML

`Token.scan` cuts a text into tokens. Most of the structure of YAML lies in indentation, and the
tokens make it explicit: a collection that begins at a new column is opened by a token, and closed
by one where the text returns to a lesser column.

That a scalar is a key shows only at the colon after it. Therefore the scanner remembers where a key
may have begun (`Candidate`), one place for every level of brackets, and puts the token for the key
there afterwards. A key is on one line and not long; where only a key can stand, it must become one.
-/

namespace Courier.Yaml

/-- A tag: a handle that stands for a beginning, if there is one, and the rest. -/
structure TagName where
  handle : Option String
  rest : String
deriving DecidableEq, Repr, Inhabited

/-- What a directive says. -/
inductive Directive where
  | version (major : Nat)
  | handle (name beginning : String)
  | other
deriving DecidableEq, Repr

/-- A token. -/
inductive Token where
  | directive (d : Directive)
  | documentStart
  | documentEnd
  | blockSequence
  | blockMapping
  | blockEnd
  | openSequence
  | closeSequence
  | openMapping
  | closeMapping
  | comma
  | entry
  | key
  | value
  | alias (name : String)
  | anchor (name : String)
  | tag (name : TagName)
  | scalar (text : String) (plain : Bool)
  | streamEnd
deriving DecidableEq, Repr

/-- A place where a key may have begun. -/
structure Candidate where
  /-- How many brackets are open around it. -/
  level : Nat
  /-- How many tokens come before it. -/
  position : Nat
  /-- Whether nothing but a key can stand there. -/
  required : Bool
  start : Cursor

/-- How far a text is cut into tokens. -/
structure Scanner where
  cursor : Cursor
  /-- How many brackets are open. -/
  level : Nat := 0
  /-- The column of the innermost collection outside of brackets. -/
  indent : Int := -1
  /-- The columns of the collections around it. -/
  outer : List Int := []
  /-- Whether a key may begin here. -/
  allowsKey : Bool := true
  candidates : List Candidate := []
  tokens : Array Token := #[]

namespace Scanner

/-- The longest distance between the beginning of a key and its colon. -/
def keyLimit : Nat := 1024

/-- The scanner with a token added. -/
def emit (s : Scanner) (t : Token) : Scanner := { s with tokens := s.tokens.push t }

/-- The scanner at a place further on. -/
def movedTo (s : Scanner) (c : Cursor) : Scanner := { s with cursor := c }

/-- The scanner with a token put before those from a position on. -/
def insertAt (s : Scanner) (position : Nat) (t : Token) : Scanner :=
  { s with tokens :=
      s.tokens.extract 0 position ++ #[t] ++ s.tokens.extract position s.tokens.size }

/-- Whether a candidate can no longer become a key. -/
def isStale (s : Scanner) (k : Candidate) : Bool :=
  k.start.line != s.cursor.line || k.start.index + keyLimit < s.cursor.index

/-- The scanner without some candidates, none of which may be required. -/
def withoutCandidates (s : Scanner) (p : Candidate → Bool) : Except Fault Scanner :=
  match s.candidates.find? fun k => p k && k.required with
  | some k => .error (.missingColon k.start.line)
  | none => .ok { s with candidates := s.candidates.filter fun k => !p k }

/-- The scanner without the candidates that can no longer become keys. -/
def withoutStale (s : Scanner) : Except Fault Scanner := s.withoutCandidates s.isStale

/-- The scanner without the candidate of the current level. -/
def withoutCandidate (s : Scanner) : Except Fault Scanner :=
  s.withoutCandidates fun k => k.level == s.level

/-- The scanner that remembers that a key may begin here. -/
def remember (s : Scanner) : Except Fault Scanner :=
  if s.allowsKey then do
    let required := s.level == 0 && s.indent == s.cursor.column
    let kept ← s.withoutCandidate
    return { kept with
      candidates := ⟨s.level, s.tokens.size, required, s.cursor⟩ :: kept.candidates }
  else .ok s

/-- The scanner after the collections further in than a column, as many as `outer` holds. -/
def closeFrom (column : Int) : List Int → Scanner → Scanner
  | [], s => s
  | before :: outer, s =>
    if column < s.indent then
      closeFrom column outer ({ s with indent := before, outer := outer }.emit .blockEnd)
    else s

/-- The scanner after the end of every collection that ends before a column. -/
def unwind (s : Scanner) (column : Int) : Scanner :=
  if s.level == 0 then closeFrom column s.outer s else s

/-- Whether a collection begins at a column that belongs to none yet. -/
def opens (s : Scanner) (column : Nat) : Bool := s.indent < column

/-- The scanner within a collection that begins at a column. -/
def opened (s : Scanner) (column : Nat) : Scanner :=
  { s with outer := s.indent :: s.outer, indent := column }

/-- The scanner within a collection that begins here, opened by a token if it is a new one. -/
def openHere (s : Scanner) (t : Token) : Scanner :=
  if s.opens s.cursor.column then (s.opened s.cursor.column).emit t else s

/-- The place of the next token, and whether a key may begin there, after as many lines as `fuel`
allows. -/
def nextPlace (bracketed : Bool) : Nat → Cursor → Bool → Cursor × Bool
  | 0, c, allowsKey => (c, allowsKey)
  | fuel + 1, c, allowsKey =>
    let c := (c.skipWhile (· == ' ')).skipComment
    match c.lineBreak with
    | ([], _) => (c, allowsKey)
    | (_, c) => nextPlace bracketed fuel c (allowsKey || !bracketed)

/-- The scanner at the next token. -/
def toNext (s : Scanner) : Scanner :=
  let c := s.cursor
  let c := if c.index == 0 && c.sees '\ufeff' then c.step else c
  let (c, allowsKey) := nextPlace (s.level != 0) (c.rest.length + 1) c s.allowsKey
  { s with cursor := c, allowsKey := allowsKey }

/-! ## Directives -/

/-- The number that a run of digits at a place writes. -/
def number (c : Cursor) : Except Fault (Nat × Cursor) :=
  match c.span Char.isDigit with
  | ([], _) => .error .directive
  | (digits, c) =>
    if digitLimit < digits.length then .error (.number (.tooManyDigits digits.length))
    else .ok (digits.foldl (fun n d => 10 * n + (d.toNat - 48)) 0, c)

/-- The version that a directive names. -/
def versionAt (c : Cursor) : Except Fault (Directive × Cursor) := do
  let (major, c) ← number (c.skipWhile (· == ' '))
  if !c.sees '.' then throw .directive
  let (_, c) ← number c.step
  if !fieldEnds c.peek then throw .directive
  return (.version major, c)

/-- The handle of a tag. -/
def handleAt (c : Cursor) : Except Fault (String × Cursor) :=
  if !c.sees '!' then .error .brokenTag
  else
    let (name, after) := c.step.span isNameChar
    if name.isEmpty && c.peek 1 == some ' ' then .ok ("!", c.step)
    else if after.sees '!' then .ok (String.ofList ('!' :: name ++ ['!']), after.step)
    else .error .brokenTag

/-- Whether a character may stand in the rest of a tag. -/
def isTagChar (c : Char) : Bool := c.isAlphanum || "-;/?:@&=+$,_.!~*'()[]%".toList.contains c

/-- The bytes of the escapes at the beginning of a text. -/
def escapedBytes? : List Char → Option (List UInt8)
  | '%' :: a :: b :: rest =>
    if isHexDigit a && isHexDigit b then
      (escapedBytes? rest).map ((16 * hexValue a + hexValue b).toUInt8 :: ·)
    else none
  | '%' :: _ => none
  | _ => some []

/-- The rest of a tag, as many pieces as `fuel` allows. -/
def tagRestFrom : Nat → Cursor → Except Fault (List Char × Cursor)
  | 0, c => .ok ([], c)
  | fuel + 1, c =>
    match c.rest with
    | [] => .ok ([], c)
    | ch :: _ =>
      if ch == '%' then
        match escapedBytes? c.rest with
        | none => .error .brokenTag
        | some bytes =>
          match String.fromUTF8? ⟨bytes.toArray⟩ with
          | none => .error .brokenTag
          | some text => do
            let (more, after) ← tagRestFrom fuel (c.skip (3 * bytes.length))
            return (text.toList ++ more, after)
      else if isTagChar ch then do
        let (more, after) ← tagRestFrom fuel c.step
        return (ch :: more, after)
      else .ok ([], c)

/-- The rest of a tag, which may not be empty. -/
def tagRest (c : Cursor) : Except Fault (String × Cursor) := do
  let (text, after) ← tagRestFrom (c.rest.length + 1) c
  if text.isEmpty then throw .brokenTag
  return (String.ofList text, after)

/-- The handle that a directive names, and what it stands for. -/
def handleDirectiveAt (c : Cursor) : Except Fault (Directive × Cursor) := do
  let (name, c) ← handleAt (c.skipWhile (· == ' '))
  if !c.sees ' ' then throw .directive
  let (beginning, c) ← tagRest (c.skipWhile (· == ' '))
  if !fieldEnds c.peek then throw .directive
  return (.handle name beginning, c)

/-- The directive at a place. -/
def directiveAt (c : Cursor) : Except Fault (Directive × Cursor) := do
  let (name, c) := c.step.span isNameChar
  if name.isEmpty || !fieldEnds c.peek then throw .directive
  let (d, c) ←
    if name == "YAML".toList then versionAt c
    else if name == "TAG".toList then handleDirectiveAt c
    else pure (.other, c.skipWhile fun ch => !isBreak ch)
  let c := (c.skipWhile (· == ' ')).skipComment
  if !lineEnds c.peek then throw .directive
  return (d, c.lineBreak.2)

/-! ## Anchors and tags -/

/-- The signs that may follow the name of an anchor. -/
def nameFollowers : List Char := ['?', ':', ',', ']', '\x7d', '%', '@', '\x60']

/-- The name at a place after its sign. -/
def nameAt (c : Cursor) : Except Fault (String × Cursor) :=
  let (name, c) := c.step.span isNameChar
  if name.isEmpty || !(wordEnds c.peek || c.peek.any nameFollowers.contains) then
    .error .anchorName
  else .ok (String.ofList name, c)

/-- The tag at a place, before what follows it is looked at. -/
def openTagAt (c : Cursor) : Except Fault (TagName × Cursor) := do
  if c.peek 1 == some '<' then
    let (rest, c) ← tagRest (c.skip 2)
    if !c.sees '>' then throw .brokenTag
    return (⟨none, rest⟩, c.step)
  else if wordEnds (c.peek 1) then
    return (⟨none, "!"⟩, c.step)
  else if (c.step.rest.takeWhile fun ch => !fieldEnds (some ch)).contains '!' then
    let (handle, c) ← handleAt c
    let (rest, c) ← tagRest c
    return (⟨some handle, rest⟩, c)
  else
    let (rest, c) ← tagRest c.step
    return (⟨some "!", rest⟩, c)

/-- The tag at a place. -/
def tagAt (c : Cursor) : Except Fault (TagName × Cursor) := do
  let (name, c) ← openTagAt c
  if !fieldEnds c.peek then throw .brokenTag
  return (name, c)

/-! ## One token -/

/-- The scanner after a token of some characters that leaves no place for a key. -/
def marker (s : Scanner) (t : Token) (width : Nat) : Except Fault Scanner := do
  let s ← (s.unwind (-1)).withoutCandidate
  return ({ s with allowsKey := false }.emit t).movedTo (s.cursor.skip width)

/-- The scanner after a directive. -/
def directive (s : Scanner) : Except Fault Scanner := do
  let s ← (s.unwind (-1)).withoutCandidate
  let (d, c) ← directiveAt s.cursor
  return ({ s with allowsKey := false }.emit (.directive d)).movedTo c

/-- The scanner after an opening bracket. -/
def openBracket (s : Scanner) (t : Token) : Except Fault Scanner := do
  let s ← s.remember
  return ({ s with level := s.level + 1, allowsKey := true }.emit t).movedTo s.cursor.step

/-- The scanner after a closing bracket. -/
def closeBracket (s : Scanner) (t : Token) : Except Fault Scanner := do
  let s ← s.withoutCandidate
  return ({ s with level := s.level - 1, allowsKey := false }.emit t).movedTo s.cursor.step

/-- The scanner after a comma between brackets. -/
def comma (s : Scanner) : Except Fault Scanner := do
  let s ← s.withoutCandidate
  return ({ s with allowsKey := true }.emit .comma).movedTo s.cursor.step

/-- The scanner after the sign of an entry. -/
def entry (s : Scanner) : Except Fault Scanner := do
  if s.level == 0 && !s.allowsKey then throw (.misplacedEntry s.cursor.line)
  let s ← (if s.level == 0 then s.openHere .blockSequence else s).withoutCandidate
  return ({ s with allowsKey := true }.emit .entry).movedTo s.cursor.step

/-- The scanner after the sign of a key. -/
def key (s : Scanner) : Except Fault Scanner := do
  if s.level == 0 && !s.allowsKey then throw (.misplacedKey s.cursor.line)
  let s ← (if s.level == 0 then s.openHere .blockMapping else s).withoutCandidate
  return ({ s with allowsKey := s.level == 0 }.emit .key).movedTo s.cursor.step

/-- The scanner after a colon. A candidate on the same level becomes a key. -/
def colon (s : Scanner) : Except Fault Scanner :=
  match s.candidates.find? fun k => k.level == s.level with
  | some k =>
    let s := { s with candidates := s.candidates.filter fun k => k.level != s.level }
    let s := s.insertAt k.position .key
    let s := if s.level == 0 && s.opens k.start.column then
        (s.opened k.start.column).insertAt k.position .blockMapping
      else s
    .ok (({ s with allowsKey := false }.emit .value).movedTo s.cursor.step)
  | none => do
    if s.level == 0 && !s.allowsKey then throw (.misplacedValue s.cursor.line)
    let s ← (if s.level == 0 then s.openHere .blockMapping else s).withoutCandidate
    return ({ s with allowsKey := s.level == 0 }.emit .value).movedTo s.cursor.step

/-- The scanner after a token that may be or begin a key. -/
def word (s : Scanner) (read : Cursor → Except Fault (Token × Cursor)) : Except Fault Scanner := do
  let s ← s.remember
  let (t, c) ← read s.cursor
  return ({ s with allowsKey := false }.emit t).movedTo c

/-- The scanner after a quoted scalar. -/
def quoted (s : Scanner) (double : Bool) : Except Fault Scanner :=
  s.word fun c => do
    let (text, c) ← quotedScalar double c
    return (.scalar (String.ofList text) false, c)

/-- The scanner after a block scalar. -/
def block (s : Scanner) (fold : Bool) : Except Fault Scanner := do
  let s ← s.withoutCandidate
  let (text, c) ← blockScalar fold s.indent s.cursor.step
  return ({ s with allowsKey := true }.emit (.scalar (String.ofList text) false)).movedTo c

/-- The scanner after a plain scalar. -/
def plain (s : Scanner) : Except Fault Scanner := do
  let s ← s.remember
  let scalar := plainScalar (s.level != 0) (s.indent + 1) s.cursor
  return ({ s with allowsKey := scalar.crossesLine }.emit
    (.scalar (String.ofList scalar.text) true)).movedTo scalar.after

/-- The signs that no plain scalar begins with. -/
def signs : List Char :=
  ['-', '?', ':', ',', '[', ']', '\x7b', '\x7d', '#', '&', '*', '!', '|', '>', '\'', '"', '%', '@',
    '\x60']

/-- Whether a plain scalar begins with a character and what follows it. -/
def beginsPlain (bracketed : Bool) (ch : Char) (next : Option Char) : Bool :=
  !(isGap ch || signs.contains ch) ||
    (!wordEnds next && (ch == '-' || (!bracketed && (ch == '?' || ch == ':'))))

/-- The scanner after the token that begins with a character. -/
def token (s : Scanner) (ch : Char) : Except Fault Scanner :=
  let c := s.cursor
  let bracketed := s.level != 0
  let ends := wordEnds (c.peek 1)
  if ch == '%' && c.column == 0 then s.directive
  else if c.column == 0 && c.seesMark '-' then s.marker .documentStart 3
  else if c.column == 0 && c.seesMark '.' then s.marker .documentEnd 3
  else if ch == '[' then s.openBracket .openSequence
  else if ch == '\x7b' then s.openBracket .openMapping
  else if ch == ']' then s.closeBracket .closeSequence
  else if ch == '\x7d' then s.closeBracket .closeMapping
  else if ch == ',' then s.comma
  else if ch == '-' && ends then s.entry
  else if ch == '?' && (bracketed || ends) then s.key
  else if ch == ':' && (bracketed || ends) then s.colon
  else if ch == '*' then s.word fun c => (nameAt c).map fun (n, c) => (.alias n, c)
  else if ch == '&' then s.word fun c => (nameAt c).map fun (n, c) => (.anchor n, c)
  else if ch == '!' then s.word fun c => (tagAt c).map fun (n, c) => (.tag n, c)
  else if ch == '|' && !bracketed then s.block false
  else if ch == '>' && !bracketed then s.block true
  else if ch == '\'' then s.quoted false
  else if ch == '"' then s.quoted true
  else if beginsPlain bracketed ch (c.peek 1) then s.plain
  else .error (.unexpected c.line c.column)

/-- The scanner at the end of the text. -/
def finish (s : Scanner) : Except Fault (Array Token) := do
  let s ← (s.unwind (-1)).withoutCandidate
  return s.tokens.push .streamEnd

/-- All tokens from here on, as many as `fuel` allows. -/
def run : Nat → Scanner → Except Fault (Array Token)
  | 0, s => s.finish
  | fuel + 1, s => do
    let s ← s.toNext.withoutStale
    let s := s.unwind s.cursor.column
    match s.cursor.rest with
    | [] => s.finish
    | ch :: _ => run fuel (← s.token ch)

end Scanner

/-- The tokens of a text. -/
def Token.scan (text : String) : Except Fault (List Token) := do
  match text.toList.find? fun c => !isAllowed c with
  | some c => throw (.character c)
  | none =>
    let tokens ← Scanner.run (text.length + 1) { cursor := { rest := text.toList } }
    return tokens.toList

end Courier.Yaml
