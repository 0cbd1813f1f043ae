/-!
# Labels in ASCII

A label of a domain with characters beyond ASCII travels as ASCII text: the ASCII characters first,
then a hyphen, then digits of base 36 that say which characters to insert where. `encode?` writes
that text and `decode?` reads it.

The insertions are numbers of variable length whose thresholds adapt to the last one, so frequent
steps stay short.
-/

namespace Courier.MailAddress.Punycode

/-- The threshold after an insertion of size `delta` into a text that then has `count`
characters. -/
def adapt (delta count : Nat) (first : Bool) : Nat :=
  let delta := if first then delta / 700 else delta / 2
  let delta := delta + delta / count
  go 40 delta 0
where
  /-- Divide until the rest is small, adding the base each time. -/
  go : Nat → Nat → Nat → Nat
  | 0, delta, k => k + 36 * delta / (delta + 38)
  | fuel + 1, delta, k =>
    if delta > 455 then go fuel (delta / 35) (k + 36) else k + 36 * delta / (delta + 38)

/-- The threshold of a digit at a place. -/
def threshold (place bias : Nat) : Nat :=
  if place ≤ bias then 1 else if bias + 26 ≤ place then 26 else place - bias

/-- The character of a digit. -/
def digitChar (n : Nat) : Char := Char.ofNat (if n < 26 then 97 + n else 22 + n)

/-- The value of a digit. -/
def digitOf? (c : Char) : Option Nat :=
  if c.isDigit then some (c.toNat - 22)
  else if c.isLower then some (c.toNat - 97)
  else if c.isUpper then some (c.toNat - 65) else none

/-- The digits of a number; `fuel` bounds their count. -/
def digits : Nat → Nat → Nat → Nat → List Char
  | 0, _, _, _ => []
  | fuel + 1, q, place, bias =>
    let t := threshold place bias
    if q < t then [digitChar q]
    else digitChar (t + (q - t) % (36 - t)) :: digits fuel ((q - t) / (36 - t)) (place + 36) bias

/-- The state of writing: the number to write, the threshold and the characters handled. -/
structure Writer where
  delta : Nat
  bias : Nat
  handled : Nat
  first : Bool
  out : List Char

/-- Handle every character of the label while `n` is the one to insert. -/
def insertAll (n : Nat) (w : Writer) : List Char → Writer
  | [] => w
  | c :: rest =>
    if c.toNat < n then insertAll n { w with delta := w.delta + 1 } rest
    else if c.toNat = n then
      let bias := adapt w.delta (w.handled + 1) w.first
      insertAll n ⟨0, bias, w.handled + 1, false, w.out ++ digits 40 w.delta 36 w.bias⟩ rest
    else insertAll n w rest

/-- Insert the characters from `n` on, smallest first; `fuel` bounds how many different ones there
are. -/
def encodeFrom (label : List Char) : Nat → Nat → Writer → List Char
  | 0, _, w => w.out
  | fuel + 1, n, w =>
    match ((label.map Char.toNat).filter fun m => n ≤ m).min? with
    | none => w.out
    | some m =>
      let w := insertAll m { w with delta := w.delta + (m - n) * (w.handled + 1) } label
      encodeFrom label fuel (m + 1) { w with delta := w.delta + 1 }

/-- The ASCII text of a label. -/
def encode (label : List Char) : List Char :=
  let basic := label.filter fun c => c.toNat < 128
  let start := if basic.isEmpty then [] else basic ++ ['-']
  encodeFrom label label.length 128 ⟨0, 72, basic.length, true, start⟩

/-- Read one number: its value and the rest of the digits. -/
def number? : List Char → Nat → Nat → Nat → Nat → Option (Nat × List Char)
  | [], _, _, _, _ => none
  | c :: rest, place, weight, sum, bias =>
    match digitOf? c with
    | none => none
    | some d =>
      let sum := sum + d * weight
      let t := threshold place bias
      if d < t then some (sum, rest) else number? rest (place + 36) (weight * (36 - t)) sum bias

/-- Insert the characters that the digits tell; `fuel` bounds their count. -/
def decodeFrom : Nat → List Char → List Char → Nat → Nat → Nat → Bool → Option (List Char)
  | _, text, [], _, _, _, _ => some text
  | 0, _, _ :: _, _, _, _, _ => none
  | fuel + 1, text, c :: more, n, i, bias, first =>
    match number? (c :: more) 36 1 0 bias with
    | none => none
    | some (delta, rest) =>
      let count := text.length + 1
      let i := i + delta
      let n := n + i / count
      let i := i % count
      if 0x10ffff < n then none
      else decodeFrom fuel (text.take i ++ Char.ofNat n :: text.drop i) rest n (i + 1)
        (adapt delta count first) false

/-- The label of an ASCII text. -/
def decode? (text : List Char) : Option (List Char) :=
  let rev := text.reverse
  let tail := (rev.takeWhile (· != '-')).reverse
  let base := if rev.contains '-' then (rev.drop (tail.length + 1)).reverse else []
  decodeFrom text.length base tail 128 0 72 true

end Courier.MailAddress.Punycode
