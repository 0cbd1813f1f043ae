import Courier.Text.Mark
import Courier.Text.Quoted

/-!
# Naming characters

A message about a character shows the character between quotes if it can be seen, and calls it by
its name or its code point otherwise.
-/

namespace Courier.MailAddress

open Courier.Text

/-- The names of blanks, format characters and common marks. -/
def charNames : List (Nat × String) :=
  [(0x20, "SPACE"),
   (0xa0, "NO-BREAK SPACE"),
   (0xad, "SOFT HYPHEN"),
   (0x300, "COMBINING GRAVE ACCENT"),
   (0x301, "COMBINING ACUTE ACCENT"),
   (0x302, "COMBINING CIRCUMFLEX ACCENT"),
   (0x303, "COMBINING TILDE"),
   (0x304, "COMBINING MACRON"),
   (0x305, "COMBINING OVERLINE"),
   (0x306, "COMBINING BREVE"),
   (0x307, "COMBINING DOT ABOVE"),
   (0x308, "COMBINING DIAERESIS"),
   (0x309, "COMBINING HOOK ABOVE"),
   (0x30a, "COMBINING RING ABOVE"),
   (0x30b, "COMBINING DOUBLE ACUTE ACCENT"),
   (0x30c, "COMBINING CARON"),
   (0x30d, "COMBINING VERTICAL LINE ABOVE"),
   (0x30e, "COMBINING DOUBLE VERTICAL LINE ABOVE"),
   (0x30f, "COMBINING DOUBLE GRAVE ACCENT"),
   (0x310, "COMBINING CANDRABINDU"),
   (0x311, "COMBINING INVERTED BREVE"),
   (0x312, "COMBINING TURNED COMMA ABOVE"),
   (0x313, "COMBINING COMMA ABOVE"),
   (0x314, "COMBINING REVERSED COMMA ABOVE"),
   (0x315, "COMBINING COMMA ABOVE RIGHT"),
   (0x316, "COMBINING GRAVE ACCENT BELOW"),
   (0x317, "COMBINING ACUTE ACCENT BELOW"),
   (0x318, "COMBINING LEFT TACK BELOW"),
   (0x319, "COMBINING RIGHT TACK BELOW"),
   (0x31a, "COMBINING LEFT ANGLE ABOVE"),
   (0x31b, "COMBINING HORN"),
   (0x31c, "COMBINING LEFT HALF RING BELOW"),
   (0x31d, "COMBINING UP TACK BELOW"),
   (0x31e, "COMBINING DOWN TACK BELOW"),
   (0x31f, "COMBINING PLUS SIGN BELOW"),
   (0x320, "COMBINING MINUS SIGN BELOW"),
   (0x321, "COMBINING PALATALIZED HOOK BELOW"),
   (0x322, "COMBINING RETROFLEX HOOK BELOW"),
   (0x323, "COMBINING DOT BELOW"),
   (0x324, "COMBINING DIAERESIS BELOW"),
   (0x325, "COMBINING RING BELOW"),
   (0x326, "COMBINING COMMA BELOW"),
   (0x327, "COMBINING CEDILLA"),
   (0x328, "COMBINING OGONEK"),
   (0x329, "COMBINING VERTICAL LINE BELOW"),
   (0x32a, "COMBINING BRIDGE BELOW"),
   (0x32b, "COMBINING INVERTED DOUBLE ARCH BELOW"),
   (0x32c, "COMBINING CARON BELOW"),
   (0x32d, "COMBINING CIRCUMFLEX ACCENT BELOW"),
   (0x32e, "COMBINING BREVE BELOW"),
   (0x32f, "COMBINING INVERTED BREVE BELOW"),
   (0x330, "COMBINING TILDE BELOW"),
   (0x331, "COMBINING MACRON BELOW"),
   (0x332, "COMBINING LOW LINE"),
   (0x333, "COMBINING DOUBLE LOW LINE"),
   (0x334, "COMBINING TILDE OVERLAY"),
   (0x335, "COMBINING SHORT STROKE OVERLAY"),
   (0x336, "COMBINING LONG STROKE OVERLAY"),
   (0x337, "COMBINING SHORT SOLIDUS OVERLAY"),
   (0x338, "COMBINING LONG SOLIDUS OVERLAY"),
   (0x339, "COMBINING RIGHT HALF RING BELOW"),
   (0x33a, "COMBINING INVERTED BRIDGE BELOW"),
   (0x33b, "COMBINING SQUARE BELOW"),
   (0x33c, "COMBINING SEAGULL BELOW"),
   (0x33d, "COMBINING X ABOVE"),
   (0x33e, "COMBINING VERTICAL TILDE"),
   (0x33f, "COMBINING DOUBLE OVERLINE"),
   (0x340, "COMBINING GRAVE TONE MARK"),
   (0x341, "COMBINING ACUTE TONE MARK"),
   (0x342, "COMBINING GREEK PERISPOMENI"),
   (0x343, "COMBINING GREEK KORONIS"),
   (0x344, "COMBINING GREEK DIALYTIKA TONOS"),
   (0x345, "COMBINING GREEK YPOGEGRAMMENI"),
   (0x346, "COMBINING BRIDGE ABOVE"),
   (0x347, "COMBINING EQUALS SIGN BELOW"),
   (0x348, "COMBINING DOUBLE VERTICAL LINE BELOW"),
   (0x349, "COMBINING LEFT ANGLE BELOW"),
   (0x34a, "COMBINING NOT TILDE ABOVE"),
   (0x34b, "COMBINING HOMOTHETIC ABOVE"),
   (0x34c, "COMBINING ALMOST EQUAL TO ABOVE"),
   (0x34d, "COMBINING LEFT RIGHT ARROW BELOW"),
   (0x34e, "COMBINING UPWARDS ARROW BELOW"),
   (0x34f, "COMBINING GRAPHEME JOINER"),
   (0x350, "COMBINING RIGHT ARROWHEAD ABOVE"),
   (0x351, "COMBINING LEFT HALF RING ABOVE"),
   (0x352, "COMBINING FERMATA"),
   (0x353, "COMBINING X BELOW"),
   (0x354, "COMBINING LEFT ARROWHEAD BELOW"),
   (0x355, "COMBINING RIGHT ARROWHEAD BELOW"),
   (0x356, "COMBINING RIGHT ARROWHEAD AND UP ARROWHEAD BELOW"),
   (0x357, "COMBINING RIGHT HALF RING ABOVE"),
   (0x358, "COMBINING DOT ABOVE RIGHT"),
   (0x359, "COMBINING ASTERISK BELOW"),
   (0x35a, "COMBINING DOUBLE RING BELOW"),
   (0x35b, "COMBINING ZIGZAG ABOVE"),
   (0x35c, "COMBINING DOUBLE BREVE BELOW"),
   (0x35d, "COMBINING DOUBLE BREVE"),
   (0x35e, "COMBINING DOUBLE MACRON"),
   (0x35f, "COMBINING DOUBLE MACRON BELOW"),
   (0x360, "COMBINING DOUBLE TILDE"),
   (0x361, "COMBINING DOUBLE INVERTED BREVE"),
   (0x362, "COMBINING DOUBLE RIGHTWARDS ARROW BELOW"),
   (0x363, "COMBINING LATIN SMALL LETTER A"),
   (0x364, "COMBINING LATIN SMALL LETTER E"),
   (0x365, "COMBINING LATIN SMALL LETTER I"),
   (0x366, "COMBINING LATIN SMALL LETTER O"),
   (0x367, "COMBINING LATIN SMALL LETTER U"),
   (0x368, "COMBINING LATIN SMALL LETTER C"),
   (0x369, "COMBINING LATIN SMALL LETTER D"),
   (0x36a, "COMBINING LATIN SMALL LETTER H"),
   (0x36b, "COMBINING LATIN SMALL LETTER M"),
   (0x36c, "COMBINING LATIN SMALL LETTER R"),
   (0x36d, "COMBINING LATIN SMALL LETTER T"),
   (0x36e, "COMBINING LATIN SMALL LETTER V"),
   (0x36f, "COMBINING LATIN SMALL LETTER X"),
   (0x600, "ARABIC NUMBER SIGN"),
   (0x601, "ARABIC SIGN SANAH"),
   (0x602, "ARABIC FOOTNOTE MARKER"),
   (0x603, "ARABIC SIGN SAFHA"),
   (0x604, "ARABIC SIGN SAMVAT"),
   (0x605, "ARABIC NUMBER MARK ABOVE"),
   (0x61c, "ARABIC LETTER MARK"),
   (0x6dd, "ARABIC END OF AYAH"),
   (0x70f, "SYRIAC ABBREVIATION MARK"),
   (0x890, "ARABIC POUND MARK ABOVE"),
   (0x891, "ARABIC PIASTRE MARK ABOVE"),
   (0x8e2, "ARABIC DISPUTED END OF AYAH"),
   (0x1680, "OGHAM SPACE MARK"),
   (0x180e, "MONGOLIAN VOWEL SEPARATOR"),
   (0x2000, "EN QUAD"),
   (0x2001, "EM QUAD"),
   (0x2002, "EN SPACE"),
   (0x2003, "EM SPACE"),
   (0x2004, "THREE-PER-EM SPACE"),
   (0x2005, "FOUR-PER-EM SPACE"),
   (0x2006, "SIX-PER-EM SPACE"),
   (0x2007, "FIGURE SPACE"),
   (0x2008, "PUNCTUATION SPACE"),
   (0x2009, "THIN SPACE"),
   (0x200a, "HAIR SPACE"),
   (0x200b, "ZERO WIDTH SPACE"),
   (0x200c, "ZERO WIDTH NON-JOINER"),
   (0x200d, "ZERO WIDTH JOINER"),
   (0x200e, "LEFT-TO-RIGHT MARK"),
   (0x200f, "RIGHT-TO-LEFT MARK"),
   (0x2028, "LINE SEPARATOR"),
   (0x2029, "PARAGRAPH SEPARATOR"),
   (0x202a, "LEFT-TO-RIGHT EMBEDDING"),
   (0x202b, "RIGHT-TO-LEFT EMBEDDING"),
   (0x202c, "POP DIRECTIONAL FORMATTING"),
   (0x202d, "LEFT-TO-RIGHT OVERRIDE"),
   (0x202e, "RIGHT-TO-LEFT OVERRIDE"),
   (0x202f, "NARROW NO-BREAK SPACE"),
   (0x205f, "MEDIUM MATHEMATICAL SPACE"),
   (0x2060, "WORD JOINER"),
   (0x2061, "FUNCTION APPLICATION"),
   (0x2062, "INVISIBLE TIMES"),
   (0x2063, "INVISIBLE SEPARATOR"),
   (0x2064, "INVISIBLE PLUS"),
   (0x2066, "LEFT-TO-RIGHT ISOLATE"),
   (0x2067, "RIGHT-TO-LEFT ISOLATE"),
   (0x2068, "FIRST STRONG ISOLATE"),
   (0x2069, "POP DIRECTIONAL ISOLATE"),
   (0x206a, "INHIBIT SYMMETRIC SWAPPING"),
   (0x206b, "ACTIVATE SYMMETRIC SWAPPING"),
   (0x206c, "INHIBIT ARABIC FORM SHAPING"),
   (0x206d, "ACTIVATE ARABIC FORM SHAPING"),
   (0x206e, "NATIONAL DIGIT SHAPES"),
   (0x206f, "NOMINAL DIGIT SHAPES"),
   (0x3000, "IDEOGRAPHIC SPACE"),
   (0xfeff, "ZERO WIDTH NO-BREAK SPACE"),
   (0xfff9, "INTERLINEAR ANNOTATION ANCHOR"),
   (0xfffa, "INTERLINEAR ANNOTATION SEPARATOR"),
   (0xfffb, "INTERLINEAR ANNOTATION TERMINATOR"),
   (0x110bd, "KAITHI NUMBER SIGN"),
   (0x110cd, "KAITHI NUMBER SIGN ABOVE"),
   (0x13430, "EGYPTIAN HIEROGLYPH VERTICAL JOINER"),
   (0x13431, "EGYPTIAN HIEROGLYPH HORIZONTAL JOINER"),
   (0x13432, "EGYPTIAN HIEROGLYPH INSERT AT TOP START"),
   (0x13433, "EGYPTIAN HIEROGLYPH INSERT AT BOTTOM START"),
   (0x13434, "EGYPTIAN HIEROGLYPH INSERT AT TOP END"),
   (0x13435, "EGYPTIAN HIEROGLYPH INSERT AT BOTTOM END"),
   (0x13436, "EGYPTIAN HIEROGLYPH OVERLAY MIDDLE"),
   (0x13437, "EGYPTIAN HIEROGLYPH BEGIN SEGMENT"),
   (0x13438, "EGYPTIAN HIEROGLYPH END SEGMENT"),
   (0x1bca0, "SHORTHAND FORMAT LETTER OVERLAP"),
   (0x1bca1, "SHORTHAND FORMAT CONTINUING OVERLAP"),
   (0x1bca2, "SHORTHAND FORMAT DOWN STEP"),
   (0x1bca3, "SHORTHAND FORMAT UP STEP"),
   (0x1d173, "MUSICAL SYMBOL BEGIN BEAM"),
   (0x1d174, "MUSICAL SYMBOL END BEAM"),
   (0x1d175, "MUSICAL SYMBOL BEGIN TIE"),
   (0x1d176, "MUSICAL SYMBOL END TIE"),
   (0x1d177, "MUSICAL SYMBOL BEGIN SLUR"),
   (0x1d178, "MUSICAL SYMBOL END SLUR"),
   (0x1d179, "MUSICAL SYMBOL BEGIN PHRASE"),
   (0x1d17a, "MUSICAL SYMBOL END PHRASE")]

/-- The code point of a character. -/
def codePoint (c : Char) : String :=
  "U+" ++ ((if c.toNat < 0xffff then hex 4 c.toNat else hex 8 c.toNat).map Char.toUpper)

/-- Whether a character can be seen by itself: a letter, a number, a sign or a symbol. -/
def isSeen (c : Char) : Bool := isPrintable c && c != ' ' && !isMark c

/-- A character as a message shows it. -/
def describe (c : Char) : String :=
  if c == '\\' then "\"\\\""
  else if isSeen c then quoted (String.singleton c)
  else match charNames.lookup c.toNat with
    | some name => name
    | none => codePoint c

/-- Different texts in increasing order. -/
def sortedDistinct (texts : List String) : List String :=
  (texts.eraseDups).mergeSort fun a b => a ≤ b

/-- Several characters as a message lists them. -/
def describeAll (cs : List Char) : String := ", ".intercalate (sortedDistinct (cs.map describe))

end Courier.MailAddress
