import Courier.Text.Quoted
import Courier.Value.Text

/-!
# Text from bytes

`Utf8.decode` reads the characters that bytes stand for in UTF-8. Bytes that stand for none are a
`Utf8.Fault`, which names the bytes at fault and says what is wrong with them: no character begins
with such a byte, a byte does not continue the character, or the bytes end within a character.

`Utf8.lines` writes every end of a line as a line feed.
-/

namespace Courier.Utf8

/-- What is wrong with bytes. -/
inductive Reason where
  | start
  | continuation
  | ended
deriving DecidableEq, Repr

/-- The words for what is wrong. -/
def Reason.message : Reason → String
  | start => "invalid start byte"
  | continuation => "invalid continuation byte"
  | ended => "unexpected end of data"

/-- Bytes that stand for no character: where they begin, how many there are, and the first one. -/
structure Fault where
  reason : Reason
  position : Nat
  count : Nat
  byte : UInt8
deriving DecidableEq, Repr

/-- The name of a fault. -/
def Fault.label : String := "UnicodeDecodeError"

/-- What a caller is told. -/
def Fault.message (f : Fault) : String :=
  "'utf-8' codec can't decode " ++
    (if f.count = 1 then
      "byte 0x" ++ Text.hex 2 f.byte.toNat ++ " in position " ++ Value.natText f.position
    else
      "bytes in position " ++ Value.natText f.position ++ "-" ++
        Value.natText (f.position + f.count - 1)) ++
    ": " ++ f.reason.message

/-- How many bytes follow the first byte of a character, and the bounds of the second byte. The
bounds keep out longer spellings of shorter characters, surrogates, and what lies beyond the last
character. -/
def shape? (first : UInt8) : Option (Nat × UInt8 × UInt8) :=
  if first < 0x80 then some (0, 0x80, 0xBF)
  else if first < 0xC2 then none
  else if first < 0xE0 then some (1, 0x80, 0xBF)
  else if first < 0xF0 then
    some (2, if first = 0xE0 then 0xA0 else 0x80, if first = 0xED then 0x9F else 0xBF)
  else if first < 0xF5 then
    some (3, if first = 0xF0 then 0x90 else 0x80, if first = 0xF4 then 0x8F else 0xBF)
  else none

/-- The bits of a byte after the first. -/
def tail (b : UInt8) : Nat := b.toNat % 64

/-- The bits of the first byte before `n` others. -/
def head (first : UInt8) (n : Nat) : Nat :=
  match n with
  | 0 => first.toNat
  | 1 => first.toNat % 32
  | 2 => first.toNat % 16
  | _ => first.toNat % 8

/-- The longest beginning of the bytes that fits the shape of a character: at most `n` bytes, the
first of them within bounds. -/
def fitting : Nat → UInt8 → UInt8 → List UInt8 → List UInt8
  | 0, _, _, _ => []
  | _ + 1, _, _, [] => []
  | n + 1, low, high, b :: rest =>
    if low ≤ b && b ≤ high then b :: fitting n 0x80 0xBF rest else []

/-- The characters of the rest of some bytes, of which the first `skip` belong to a character that
was read already; `position` is where the rest begins. -/
def decodeFrom : Nat → Nat → List UInt8 → Except Fault (List Char)
  | _, _, [] => .ok []
  | skip + 1, position, _ :: rest => decodeFrom skip (position + 1) rest
  | 0, position, b :: rest =>
    match shape? b with
    | none => .error ⟨.start, position, 1, b⟩
    | some (n, low, high) =>
      let more := fitting n low high rest
      if more.length = n then
        let code := more.foldl (fun code b => code * 64 + tail b) (head b n)
        (decodeFrom n (position + 1) rest).map (Char.ofNat code :: ·)
      else
        .error ⟨if more.length = rest.length then .ended else .continuation, position,
          1 + more.length, b⟩

/-- The text that bytes stand for. -/
def decode (bytes : List UInt8) : Except Fault String :=
  (decodeFrom 0 0 bytes).map String.ofList

/-- The text with every end of a line written as a line feed. -/
def lines : List Char → List Char
  | [] => []
  | '\r' :: '\n' :: rest => '\n' :: lines rest
  | '\r' :: rest => '\n' :: lines rest
  | c :: rest => c :: lines rest

example : decode [0x61, 0xC3, 0xA9, 0xE2, 0x82, 0xAC] = .ok "aé€" := by cbv

example : decode [0x61, 0xFF] = .error ⟨.start, 1, 1, 0xFF⟩ := by cbv

example : decode [0xE2, 0x82] = .error ⟨.ended, 0, 2, 0xE2⟩ := by cbv

example : decode [0xE2, 0x28, 0xA1] = .error ⟨.continuation, 0, 1, 0xE2⟩ := by cbv

end Courier.Utf8
