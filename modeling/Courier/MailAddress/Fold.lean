import Courier.MailAddress.Folding
import Courier.Text.Compose
import Courier.Text.Printable

/-!
# Folded domains

`folded` brings a domain into the one form that stands for all its spellings: lower case, plain
characters, full stops for the stops of other scripts, letters and marks put together. It fails at
the first character that no domain may hold.
-/

namespace Courier.MailAddress

open Courier.Text

/-- A run of characters: its end, the distance between neighbours, and what the first of them gives
way to. -/
structure FoldingRun where
  last : Nat
  step : Nat
  new : List Nat

/-- An entry of the table. -/
def readFolding (word : List Char) : Nat × FoldingRun :=
  let numbers (cs : List Char) : List Nat :=
    (splitOn (· == ',') cs).filterMap fun part =>
      if part.isEmpty then none else some (hexValue part)
  match splitOn (· == ':') word with
  | [source, new] =>
    match splitOn (· == '-') source, splitOn (· == '/') source with
    | [first, last], _ => (hexValue first, ⟨hexValue last, 1, numbers new⟩)
    | _, [first, last] => (hexValue first, ⟨hexValue last, 2, numbers new⟩)
    | _, _ => (hexValue source, ⟨hexValue source, 1, numbers new⟩)
  | _ => (0, ⟨0, 1, []⟩)

/-- The runs, in increasing order of their first characters. -/
def foldings : Array (Nat × FoldingRun) :=
  ((splitOn (fun c => c == ' ' || c == '\n') foldingLines.toList).map readFolding).toArray

/-- The last run that begins at or before a character, between two positions of the table. -/
def runBefore (table : Array (Nat × FoldingRun)) (n : Nat) :
    Nat → Nat → Nat → Option (Nat × FoldingRun)
  | 0, _, _ => none
  | fuel + 1, low, high =>
    if high ≤ low then (if low = 0 then none else table[low - 1]?)
    else
      let mid := (low + high) / 2
      match table[mid]? with
      | none => none
      | some (first, _) =>
        if first ≤ n then runBefore table n fuel (mid + 1) high else runBefore table n fuel low mid

/-- What a character beyond ASCII gives way to, if it does. -/
def folding? (n : Nat) : Option (List Nat) :=
  match runBefore foldings n (foldings.size + 1) 0 foldings.size with
  | none => none
  | some (first, run) =>
    if n ≤ run.last && (n - first) % run.step = 0 then
      match run.new with
      | [one] => some [one + (n - first)]
      | new => some new
    else none

/-- Whether no domain may hold a character. -/
def isRefused (c : Char) : Bool :=
  refused.any (fun r => r.1 ≤ c.toNat && c.toNat ≤ r.2) || (127 < c.toNat && !isPrintable c)

/-- A character of a domain in folded form. -/
def foldChar (c : Char) : List Char :=
  if c.toNat < 128 then [c.toLower]
  else match folding? c.toNat with
    | some new => new.map Char.ofNat
    | none => [c]

/-- The position, from 1, and the first character that no domain may hold. -/
def firstRefused (position : Nat) : List Char → Option (Nat × Char)
  | [] => none
  | c :: rest => if isRefused c then some (position, c) else firstRefused (position + 1) rest

/-- A domain in folded form. -/
def folded (domain : List Char) : Except (Nat × Char) (List Char) :=
  match firstRefused 1 domain with
  | some bad => .error bad
  | none => .ok (composed (domain.flatMap foldChar))

end Courier.MailAddress
