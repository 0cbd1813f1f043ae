import Courier.Text.Composition

/-!
# Composed texts

`composed` brings a text into the form in which a letter and its marks are one character wherever
such a character exists. The text is taken apart, the marks on each letter are put in the order of
their classes, and what belongs together is put together again. Syllables of the Korean script are
taken apart and put together by arithmetic.

A text without characters beyond ASCII is in that form already.
-/

namespace Courier.Text

/-- The value of a hexadecimal digit. -/
def hexDigit (c : Char) : Nat :=
  if c.isDigit then c.toNat - 48
  else if 'a' ≤ c && c ≤ 'f' then c.toNat - 87
  else if 'A' ≤ c && c ≤ 'F' then c.toNat - 55 else 0

/-- The number of a run of hexadecimal digits. -/
def hexValue (cs : List Char) : Nat := cs.foldl (fun n c => 16 * n + hexDigit c) 0

/-- The parts of a list between separators. -/
def splitOn (isSeparator : Char → Bool) : List Char → List (List Char)
  | [] => [[]]
  | c :: rest =>
    match splitOn isSeparator rest with
    | [] => [[]]
    | part :: parts => if isSeparator c then [] :: part :: parts else (c :: part) :: parts

/-- An entry of the table: a code point and its parts. -/
def readDecomposition (word : List Char) : Nat × List Nat :=
  match splitOn (fun c => c == ':' || c == ',') word with
  | [] => (0, [])
  | source :: parts => (hexValue source, parts.map hexValue)

/-- The decompositions, in increasing order of the character. -/
def decompositions : Array (Nat × List Nat) :=
  ((splitOn (fun c => c == ' ' || c == '\n') decompositionLines.toList).map
    readDecomposition).toArray

/-- The entry of a key in a sorted table, looked for between two positions with `fuel` halvings. -/
def searchFrom {α : Type} (table : Array (Nat × α)) (key : Nat) : Nat → Nat → Nat → Option α
  | 0, _, _ => none
  | fuel + 1, low, high =>
    if high ≤ low then none
    else
      let mid := (low + high) / 2
      match table[mid]? with
      | none => none
      | some (k, v) =>
        if k = key then some v
        else if k < key then searchFrom table key fuel (mid + 1) high
        else searchFrom table key fuel low mid

/-- The entry of a key in a sorted table. -/
def search {α : Type} (table : Array (Nat × α)) (key : Nat) : Option α :=
  searchFrom table key (table.size + 1) 0 table.size

/-- The class of a character: zero for one that is no mark. -/
def combiningClass (n : Nat) : Nat :=
  if n < 0x300 then 0
  else match combiningClasses.find? fun r => r.1 ≤ n && n ≤ r.2.1 with
    | some r => r.2.2
    | none => 0

/-- The parts of a character; `fuel` bounds the nesting of parts. -/
def partsOf : Nat → Nat → List Nat
  | 0, n => [n]
  | fuel + 1, n =>
    if n < 0xc0 then [n]
    else if 0xac00 ≤ n && n < 0xd7a4 then
      let s := n - 0xac00
      let tail := s % 28
      [0x1100 + s / 588, 0x1161 + s % 588 / 28] ++ (if tail = 0 then [] else [0x11a7 + tail])
    else match search decompositions n with
      | some parts => parts.flatMap (partsOf fuel)
      | none => [n]

/-- A mark put into its place behind those of its class and below, from the end of a reversed
text. -/
def placeMark (n cls : Nat) : List Nat → List Nat
  | [] => [n]
  | m :: before =>
    let c := combiningClass m
    if c = 0 || c ≤ cls then n :: m :: before else m :: placeMark n cls before

/-- A text with the marks on each letter in order, reversed. -/
def orderMarks (ns : List Nat) : List Nat :=
  ns.foldl (fun done n =>
    let cls := combiningClass n
    if cls = 0 then n :: done else placeMark n cls done) []

/-- The pairs that are put together, with what they make. -/
def compositions : List (Nat × Nat × Nat) :=
  decompositions.toList.filterMap fun e => match e.2 with
    | [a, b] => if neverComposed.contains e.1 then none else some (a, b, e.1)
    | _ => none

/-- The character that two make. -/
def pair? (a b : Nat) : Option Nat :=
  if 0x1100 ≤ a && a < 0x1113 && 0x1161 ≤ b && b < 0x1176 then
    some (0xac00 + ((a - 0x1100) * 21 + (b - 0x1161)) * 28)
  else if 0xac00 ≤ a && a < 0xd7a4 && (a - 0xac00) % 28 = 0 && 0x11a8 ≤ b && b < 0x11c3 then
    some (a + (b - 0x11a7))
  else (compositions.find? fun p => p.1 = a && p.2.1 = b).map fun p => p.2.2

/-- Put together the rest of a text, after a letter and the marks that stayed apart from it, latest
first. A mark is held back by one of its class before it, and a letter by any mark. -/
def composeFrom (starter : Option Nat) (held : List Nat) : List Nat → List Nat
  | [] => starter.toList ++ held.reverse
  | n :: rest =>
    let cls := combiningClass n
    match starter with
    | none =>
      if cls = 0 then held.reverse ++ composeFrom (some n) [] rest
      else composeFrom none (n :: held) rest
    | some s =>
      let isHeld := match held with
        | [] => false
        | last :: _ => cls ≤ combiningClass last
      match if isHeld then none else pair? s n with
      | some made => composeFrom (some made) held rest
      | none =>
        if cls = 0 then s :: held.reverse ++ composeFrom (some n) [] rest
        else composeFrom (some s) (n :: held) rest

/-- A text with letters and marks put together. -/
def composed (cs : List Char) : List Char :=
  if cs.all fun c => c.toNat < 128 then cs
  else
    let parts := cs.flatMap fun c => partsOf 8 c.toNat
    (composeFrom none [] (orderMarks parts).reverse).map Char.ofNat

end Courier.Text
