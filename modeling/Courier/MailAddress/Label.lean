import Courier.MailAddress.Fold
import Courier.MailAddress.Punycode
import Courier.Text.Mark
import Courier.Text.Word
import Courier.Text.Quoted

/-!
# Labels of a domain

A label is a part of a domain between full stops. `checkLabel` accepts the labels that an
internationalised domain may have: letters, marks and digits in folded and composed form, hyphens
inside, a few signs in the right surroundings, and writing directions that do not mix.
`toAscii` and `ofAscii` pass between a label and the ASCII text by which it travels.
-/

namespace Courier.MailAddress

open Courier.Text

/-- Why a label is refused. Positions count from 1. -/
inductive LabelFault where
  | empty
  | notComposed
  | hyphensInside
  | hyphenOutside
  | leadingMark
  | joiner (c : Char) (position : Nat) (label : String)
  | surroundings (c : Char) (position : Nat) (label : String)
  | character (c : Char) (position : Nat) (label : String)
  | firstDirection (label : String)
  | directionRightToLeft (position : Nat)
  | directionLeftToRight (position : Nat)
  | mixedDigits
  | lastDirection
  | tooLong
  | noContent
  | endsInHyphen
  | unreadable
deriving DecidableEq, Repr

/-- A code point in capital hexadecimal. -/
def codeName (c : Char) : String := "U+" ++ (hex 4 c.toNat).map Char.toUpper

/-- What a caller is told. -/
def LabelFault.message : LabelFault → String
  | empty => "Empty Label"
  | notComposed => "Label must be in Normalization Form C"
  | hyphensInside => "Label has disallowed hyphens in 3rd and 4th position"
  | hyphenOutside => "Label must not start or end with a hyphen"
  | leadingMark => "Label begins with an illegal combining character"
  | joiner c position label =>
    "Joiner " ++ codeName c ++ " not allowed at position " ++ toString position ++ " in " ++
      quoted label
  | surroundings c position label =>
    "Codepoint " ++ codeName c ++ " not allowed at position " ++ toString position ++ " in " ++
      quoted label
  | character c position label =>
    "Codepoint " ++ codeName c ++ " at position " ++ toString position ++ " of " ++ quoted label ++
      " not allowed"
  | firstDirection label =>
    "First codepoint in label " ++ quoted label ++ " must be directionality L, R or AL"
  | directionRightToLeft position =>
    "Invalid direction for codepoint at position " ++ toString position ++
      " in a right-to-left label"
  | directionLeftToRight position =>
    "Invalid direction for codepoint at position " ++ toString position ++
      " in a left-to-right label"
  | mixedDigits => "Can not mix numeral types in a right-to-left label"
  | lastDirection => "Label ends with illegal codepoint directionality"
  | tooLong => "Label too long"
  | noContent => "Malformed A-label, no Punycode eligible content found"
  | endsInHyphen => "A-label must not end with a hyphen"
  | unreadable => "Invalid A-label"

/-! ## Characters -/

/-- Numbers that are no decimal digits. -/
def otherNumbers : CharTable :=
  [(0xb2, 0xb3), (0xb9, 0xb9), (0xbc, 0xbe), (0x9f4, 0x9f9), (0xb72, 0xb77), (0xbf0, 0xbf2),
   (0xc78, 0xc7e), (0xd58, 0xd5e), (0xd70, 0xd78), (0xf2a, 0xf33), (0x1369, 0x137c),
   (0x16ee, 0x16f0), (0x17f0, 0x17f9), (0x19da, 0x19da), (0x2070, 0x2070), (0x2074, 0x2079),
   (0x2080, 0x2089), (0x2150, 0x2182), (0x2185, 0x2189), (0x2460, 0x249b), (0x24ea, 0x24ff),
   (0x2776, 0x2793), (0x2cfd, 0x2cfd), (0x3021, 0x3029), (0x3038, 0x303a), (0x3192, 0x3195),
   (0x3220, 0x3229), (0x3248, 0x324f), (0x3251, 0x325f), (0x3280, 0x3289), (0x32b1, 0x32bf),
   (0xa6e6, 0xa6ef), (0xa830, 0xa835), (0x10107, 0x10133), (0x10140, 0x10178), (0x1018a, 0x1018b),
   (0x102e1, 0x102fb), (0x10320, 0x10323), (0x10341, 0x10341), (0x1034a, 0x1034a),
   (0x103d1, 0x103d5), (0x10858, 0x1085f), (0x10879, 0x1087f), (0x108a7, 0x108af),
   (0x108fb, 0x108ff), (0x10916, 0x1091b), (0x109bc, 0x109bd), (0x109c0, 0x109cf),
   (0x109d2, 0x109ff), (0x10a40, 0x10a48), (0x10a7d, 0x10a7e), (0x10a9d, 0x10a9f),
   (0x10aeb, 0x10aef), (0x10b58, 0x10b5f), (0x10b78, 0x10b7f), (0x10ba9, 0x10baf),
   (0x10cfa, 0x10cff), (0x10e60, 0x10e7e), (0x10f1d, 0x10f26), (0x10f51, 0x10f54),
   (0x10fc5, 0x10fcb), (0x11052, 0x11065), (0x111e1, 0x111f4), (0x1173a, 0x1173b),
   (0x118ea, 0x118f2), (0x11c5a, 0x11c6c), (0x11fc0, 0x11fd4), (0x12400, 0x1246e),
   (0x16b5b, 0x16b61), (0x16e80, 0x16e96), (0x1d2e0, 0x1d2f3), (0x1d360, 0x1d378),
   (0x1e8c7, 0x1e8cf), (0x1ec71, 0x1ecab), (0x1ecad, 0x1ecaf), (0x1ecb1, 0x1ecb4),
   (0x1ed01, 0x1ed2d), (0x1ed2f, 0x1ed3d), (0x1f100, 0x1f10c)]

/-- Letters and marks that no label holds: enclosing and musical marks, parts of syllables, signs
of repetition and of length. -/
def excludedLetters : CharTable :=
  [(0x488, 0x489), (0x640, 0x640), (0x7fa, 0x7fa), (0x1100, 0x115e), (0x1161, 0x11ff),
   (0x1abe, 0x1abe), (0x20d0, 0x20f0), (0x302e, 0x302f), (0x3031, 0x3035), (0x303b, 0x303b),
   (0xa670, 0xa672), (0xa960, 0xa97c), (0xd7b0, 0xd7c6), (0xd7cb, 0xd7fb), (0x1d165, 0x1d169),
   (0x1d16d, 0x1d172), (0x1d17b, 0x1d182), (0x1d185, 0x1d18b), (0x1d1aa, 0x1d1ad),
   (0x1d242, 0x1d244)]

/-- Signs that a label holds only in certain surroundings. -/
def isConditional (c : Char) : Bool :=
  let n := c.toNat
  n == 0xb7 || n == 0x375 || n == 0x5f3 || n == 0x5f4 || n == 0x30fb ||
    (0x660 ≤ n && n ≤ 0x669) || (0x6f0 ≤ n && n ≤ 0x6f9)

/-- Whether a label may hold a character anywhere. -/
def isLabelChar (c : Char) : Bool :=
  if c.toNat < 128 then c.isDigit || c.isLower || c == '-'
  else if [0x6fd, 0x6fe, 0xf0b].contains c.toNat then true
  else (isWordChar c || isMark c) && !otherNumbers.has c && !excludedLetters.has c &&
    !isConditional c && (folding? c.toNat).isNone

/-- Whether a letter is Hebrew. -/
def isHebrew (c : Char) : Bool :=
  (0x591 ≤ c.toNat && c.toNat ≤ 0x5f4) || (0xfb1d ≤ c.toNat && c.toNat ≤ 0xfb4f)

/-- Whether a letter is Greek. -/
def isGreek (c : Char) : Bool :=
  (0x370 ≤ c.toNat && c.toNat ≤ 0x3ff && !(0x3e2 ≤ c.toNat && c.toNat ≤ 0x3ef)) ||
    (0x1f00 ≤ c.toNat && c.toNat ≤ 0x1ffe)

/-- Whether a letter is written beside the middle dot of the East. -/
def isEastern (c : Char) : Bool :=
  let n := c.toNat
  (0x3041 ≤ n && n ≤ 0x309f) || (0x30a1 ≤ n && n ≤ 0x30ff && n != 0x30fb && n != 0x30fc) ||
    n == 0x3005 || n == 0x3007 || (0x3400 ≤ n && n ≤ 0x4dbf) || (0x4e00 ≤ n && n ≤ 0x9fff) ||
    (0x31f0 ≤ n && n ≤ 0x31ff) || (0x20000 ≤ n && n ≤ 0x3134a)

/-- Whether a conditional sign has its surroundings: the character before it, the one after it, and
the whole label. -/
def isSurrounded (c : Char) (before after : Option Char) (label : List Char) : Bool :=
  let n := c.toNat
  if n == 0xb7 then before == some 'l' && after == some 'l'
  else if n == 0x375 then after.any isGreek
  else if n == 0x5f3 || n == 0x5f4 then before.any isHebrew
  else if n == 0x30fb then label.any isEastern
  else if 0x660 ≤ n && n ≤ 0x669 then !label.any fun d => 0x6f0 ≤ d.toNat && d.toNat ≤ 0x6f9
  else !label.any fun d => 0x660 ≤ d.toNat && d.toNat ≤ 0x669

/-- The first character of a label that it may not hold, read from a position on. -/
def characterFault? (label : List Char) : Nat → Option Char → List Char → Option LabelFault
  | _, _, [] => none
  | position, before, c :: rest =>
    if isLabelChar c then characterFault? label (position + 1) (some c) rest
    else if c.toNat == 0x200c || c.toNat == 0x200d then
      if before.any fun b => combiningClass b.toNat == 9 then
        characterFault? label (position + 1) (some c) rest
      else some (.joiner c position (String.ofList label))
    else if isConditional c then
      if isSurrounded c before rest.head? label then
        characterFault? label (position + 1) (some c) rest
      else some (.surroundings c position (String.ofList label))
    else some (.character c position (String.ofList label))

/-! ## Directions -/

/-- The direction in which a character is written. -/
inductive Direction where
  | leftToRight
  | rightToLeft
  | digit
  | arabicDigit
  | mark
  | neutral
deriving DecidableEq, Repr

/-- The letters written from right to left. -/
def rightToLeftLetters : CharTable :=
  [(0x5d0, 0x5f4), (0x620, 0x64a), (0x66e, 0x66f), (0x671, 0x6d5), (0x6e5, 0x6e6), (0x6ee, 0x6ef),
   (0x6fa, 0x710), (0x712, 0x72f), (0x74d, 0x7a5), (0x7b1, 0x7ea), (0x7f4, 0x7f5), (0x800, 0x815),
   (0x81a, 0x81a), (0x824, 0x824), (0x828, 0x828), (0x840, 0x858), (0x860, 0x88e), (0x8a0, 0x8c9),
   (0xfe73, 0xfe73), (0x10800, 0x10a00), (0x10a10, 0x10a35), (0x10a60, 0x10ae4),
   (0x10b00, 0x10d23), (0x10e80, 0x10ea9), (0x10eb0, 0x10f45), (0x10f70, 0x10f81),
   (0x10fb0, 0x10ff6), (0x1e800, 0x1e8c4), (0x1e900, 0x1e943), (0x1e94b, 0x1e959)]

/-- Letters whose direction is that of their surroundings. -/
def neutralLetters : CharTable :=
  [(0xb7, 0xb7), (0x2b9, 0x2ba), (0x2c6, 0x2cf), (0x2ec, 0x2ec), (0x375, 0x375), (0x2e2f, 0x2e2f),
   (0x30fb, 0x30fb), (0xa67f, 0xa67f), (0xa717, 0xa71f), (0xa788, 0xa788)]

/-- The direction of a character of a label. -/
def direction (c : Char) : Direction :=
  let n := c.toNat
  if n < 128 then if c.isDigit then .digit else if c == '-' then .neutral else .leftToRight
  else if isMark c then .mark
  else if (0x660 ≤ n && n ≤ 0x669) || (0x10d30 ≤ n && n ≤ 0x10d39) then .arabicDigit
  else if 0x6f0 ≤ n && n ≤ 0x6f9 then .digit
  else if rightToLeftLetters.has c then .rightToLeft
  else if neutralLetters.has c then .neutral
  else .leftToRight

/-- The first fault of direction in the rest of a label written from right to left: the digits
used so far are of one kind, and `ends` tells whether the label could end here. -/
def rightToLeftFault? : Nat → Option Direction → Bool → List Direction → Option LabelFault
  | _, _, ends, [] => if ends then none else some .lastDirection
  | position, digits, ends, d :: rest =>
    match d with
    | .leftToRight => some (.directionRightToLeft position)
    | .rightToLeft => rightToLeftFault? (position + 1) digits true rest
    | .digit | .arabicDigit =>
      match digits with
      | some e =>
        if e = d then rightToLeftFault? (position + 1) digits true rest else some .mixedDigits
      | none => rightToLeftFault? (position + 1) (some d) true rest
    | .mark => rightToLeftFault? (position + 1) digits ends rest
    | .neutral => rightToLeftFault? (position + 1) digits false rest

/-- The fault of direction in a label. Labels without characters written from right to left have
none. -/
def directionFault? (label : List Char) : Option LabelFault :=
  let directions := label.map direction
  let foreign (d : Direction) : Bool := d == .rightToLeft || d == .arabicDigit
  if !directions.any foreign then none
  else match directions.head? with
    | some .rightToLeft => rightToLeftFault? 1 none false directions
    | some .leftToRight =>
      (directions.findIdx? foreign).map fun i => .directionLeftToRight (i + 1)
    | _ => some (.firstDirection (String.ofList label))

/-! ## Whole labels -/

/-- Accept a label of an internationalised domain. -/
def checkLabel (label : List Char) : Except LabelFault Unit :=
  if label.isEmpty then .error .empty
  else if composed label != label then .error .notComposed
  else if (label.drop 2).take 2 == ['-', '-'] then .error .hyphensInside
  else if label.head? == some '-' || label.getLast? == some '-' then .error .hyphenOutside
  else if label.head?.any isMark then .error .leadingMark
  else match characterFault? label 1 none label with
    | some fault => .error fault
    | none => match directionFault? label with
      | some fault => .error fault
      | none => .ok ()

/-- What the ASCII text of a label begins with. -/
def asciiLead : List Char := ['x', 'n', '-', '-']

/-- The most characters of a label. -/
def labelLimit : Nat := 63

/-- Whether a text is all ASCII. -/
def isAscii (cs : List Char) : Bool := cs.all fun c => c.toNat < 128

/-- The label that an ASCII text stands for. -/
def ofAscii (text : List Char) : Except LabelFault (List Char) :=
  let text := text.map Char.toLower
  if asciiLead.isPrefixOf text then
    let content := text.drop 4
    if content.isEmpty then .error .noContent
    else if content.getLast? == some '-' then .error .endsInHyphen
    else match Punycode.decode? content with
      | none => .error .unreadable
      | some label => (checkLabel label).map fun _ => label
  else (checkLabel text).map fun _ => text

/-- The ASCII text by which a label travels. -/
def toAscii (label : List Char) : Except LabelFault (List Char) := do
  let text ← if isAscii label then do
      let _ ← ofAscii label
      pure label
    else do
      checkLabel label
      pure (asciiLead ++ Punycode.encode label)
  if labelLimit < text.length then .error .tooLong else .ok text

end Courier.MailAddress
