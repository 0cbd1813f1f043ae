import Courier.Yaml.Quoted

/-!
# Block scalars

A block scalar is a run of lines that are indented alike. It keeps its line ends, or folds those
between lines that begin with no blank. Its head says how far the lines are indented, if the first
of them is not to decide, and what becomes of the line ends after the last line.
-/

namespace Courier.Yaml

/-- What becomes of the line ends after the last line. -/
inductive Chomping where
  | strip
  | clip
  | keep
deriving DecidableEq, Repr, Inhabited

/-- The head of a block scalar. -/
structure BlockHead where
  chomping : Chomping
  /-- How much further than their surroundings the lines are indented, if it is said. -/
  increment : Option Nat
deriving DecidableEq, Repr

/-- The chomping that a sign stands for. -/
def chompingOf? : Option Char → Option Chomping
  | some '+' => some .keep
  | some '-' => some .strip
  | _ => none

/-- The indentation that a digit stands for. -/
def incrementOf? : Option Char → Except Fault (Option Nat)
  | some c =>
    if c == '0' then .error .blockHead
    else .ok (if c.isDigit then some (c.toNat - 48) else none)
  | none => .ok none

/-- The signs after the first one of a block scalar. -/
def blockSigns (c : Cursor) : Except Fault (BlockHead × Cursor) := do
  match chompingOf? c.peek with
  | some chomping =>
    match ← incrementOf? (c.peek 1) with
    | some n => return (⟨chomping, some n⟩, c.skip 2)
    | none => return (⟨chomping, none⟩, c.step)
  | none =>
    match ← incrementOf? c.peek with
    | none => return (⟨.clip, none⟩, c)
    | some n =>
      match chompingOf? (c.peek 1) with
      | some chomping => return (⟨chomping, some n⟩, c.skip 2)
      | none => return (⟨.clip, some n⟩, c.step)

/-- The head of a block scalar and the place where its first line begins. -/
def blockHead (c : Cursor) : Except Fault (BlockHead × Cursor) := do
  let (head, c) ← blockSigns c
  if !fieldEnds c.peek then throw .blockHead
  let c := (c.skipWhile (· == ' ')).skipComment
  if !lineEnds c.peek then throw .blockHead
  return (head, c.lineBreak.2)

/-- The empty lines that come next, the column of the furthest space among them, and the place
after them, as many steps as `fuel` allows. -/
def leadingBlanks : Nat → Nat → Cursor → List Char × Nat × Cursor
  | 0, deepest, c => ([], deepest, c)
  | fuel + 1, deepest, c =>
    if c.sees ' ' then leadingBlanks fuel (max deepest c.step.column) c.step
    else match c.lineBreak with
      | ([], _) => ([], deepest, c)
      | (line, c) =>
        let (more, deepest, c) := leadingBlanks fuel deepest c
        (line ++ more, deepest, c)

/-- The place after at most so many spaces that the column is reached. -/
def indentTo (column : Nat) (c : Cursor) : Cursor :=
  let spaces := (c.rest.takeWhile (· == ' ')).length
  c.skip (min spaces (column - c.column))

/-- The line ends that come next, with the indentation after each, as many as `fuel` allows. -/
def blankLinesFrom (indent : Nat) : Nat → Cursor → List Char × Cursor
  | 0, c => ([], c)
  | fuel + 1, c =>
    let c := indentTo indent c
    match c.lineBreak with
    | ([], _) => ([], c)
    | (line, c) =>
      let (more, c) := blankLinesFrom indent fuel c
      (line ++ more, c)

/-- The line ends that come next, with the indentation after each. -/
def blankLines (indent : Nat) (c : Cursor) : List Char × Cursor :=
  blankLinesFrom indent (c.rest.length + 1) c

/-- What stands between two lines of a block scalar: the end of the first is folded if neither line
begins with a blank. -/
def between (fold : Bool) (line empty : List Char) (begins : Bool) : List Char :=
  if fold && line == ['\n'] && begins then (if empty.isEmpty then [' '] else empty)
  else line ++ empty

/-- What stands after the last line of a block scalar. -/
def ending (chomping : Chomping) (line empty : List Char) : List Char :=
  match chomping with
  | .strip => []
  | .clip => line
  | .keep => line ++ empty

/-- Whether a text line comes next that begins with no blank. -/
def beginsText (c : Cursor) : Bool := !(c.peek.any isSpace)

/-- The lines of a block scalar from the beginning of one of them, as many as `fuel` allows. -/
def blockLines (fold : Bool) (chomping : Chomping) (indent : Nat) :
    Nat → Cursor → List Char × Cursor
  | 0, c => ([], c)
  | fuel + 1, c =>
    let begins := beginsText c
    let (text, c) := c.span fun ch => !isBreak ch
    let (line, c) := c.lineBreak
    let (empty, c) := blankLines indent c
    if c.column == indent && !c.rest.isEmpty then
      let (more, after) := blockLines fold chomping indent fuel c
      (text ++ between fold line empty (begins && beginsText c) ++ more, after)
    else (text ++ ending chomping line empty, c)

/-- A block scalar within a collection of some indentation; the place is that after its first
sign. -/
def blockScalar (fold : Bool) (outer : Int) (c : Cursor) : Read := do
  let (head, c) ← blockHead c
  let least := (max (outer + 1) 1).toNat
  let (empty, indent, c) := match head.increment with
    | some n =>
      let indent := least + n - 1
      let (empty, c) := blankLines indent c
      (empty, indent, c)
    | none =>
      let (empty, deepest, c) := leadingBlanks (c.rest.length + 1) 0 c
      (empty, max least deepest, c)
  if c.column == indent && !c.rest.isEmpty then
    let (text, c) := blockLines fold head.chomping indent (c.rest.length + 1) c
    return (empty ++ text, c)
  else return (ending head.chomping [] empty, c)

end Courier.Yaml
