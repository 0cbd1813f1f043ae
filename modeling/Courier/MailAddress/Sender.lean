import Courier.MailAddress.Basic
import Courier.Mishap

/-!
# The sender of a mail

The head of a mail names its sender as words followed by an address between angle brackets. The
words may be quoted, and comments stand between round brackets. What a reader is shown is the bare
name, put between quotes anew where it holds a sign with a meaning of its own; a name without words
leaves the address alone. A comma among the words ends a name without an address.

The reader has faults of its own (`readSender`): a name that begins with a dot stops it, and so does
a group of senders, between a colon and a semicolon, with more behind it.

A line of the head is one line: `isOneLine` refuses texts with a line end before their end.
-/

namespace Courier.MailAddress

/-- The name of a sender if none is given. -/
def defaultSenderName : String := "TalentBridge Notifications"

/-- Whether a character ends a line. -/
def endsLine (c : Char) : Bool :=
  let n := c.toNat
  (10 ≤ n && n ≤ 13) || (28 ≤ n && n ≤ 30) || n == 0x85 || n == 0x2028 || n == 0x2029

/-- Whether a text is one line, with or without its end. -/
def isOneLine : List Char → Bool
  | [] => true
  | c :: rest =>
    if endsLine c then rest.isEmpty || (c == '\r' && rest == ['\n']) else isOneLine rest

/-- The signs with a meaning of their own. -/
def senderSigns : List Char := ['(', ')', '<', '>', '@', ',', ':', ';', '.', '\\', '"', '[', ']']

/-- Whether a character is a blank of a mail's head. -/
def isGap (c : Char) : Bool := c == ' ' || c == '\t'

/-- A part of a name. -/
inductive NamePart where
  | word (cs : List Char)
  | dot
  | gap
  | comma
deriving DecidableEq, Repr

/-- The rest of a text after a comment, given how many comments are open. -/
def afterComment : Nat → List Char → List Char
  | 0, cs => cs
  | _ + 1, [] => []
  | depth + 1, '\\' :: _ :: rest => afterComment (depth + 1) rest
  | depth + 1, c :: rest =>
    if c == '(' then afterComment (depth + 2) rest
    else if c == ')' then afterComment depth rest
    else afterComment (depth + 1) rest

/-- The text between quotes and the rest after the closing quote. -/
def quotedName : List Char → List Char × List Char
  | [] => ([], [])
  | '"' :: rest => ([], rest)
  | '\\' :: c :: rest => ((quotedName rest).map (c :: ·) id)
  | c :: rest => ((quotedName rest).map (c :: ·) id)

/-- The parts of a name, as many as `fuel` allows; nothing if a sign stands where none may. -/
def namePartsFrom? : Nat → List Char → Option (List NamePart)
  | _, [] => some []
  | 0, _ => none
  | fuel + 1, c :: rest =>
    if isGap c then (.gap :: ·) <$> namePartsFrom? fuel rest
    else if c == '(' then (.gap :: ·) <$> namePartsFrom? fuel (afterComment 1 rest)
    else if c == '"' then
      let (name, after) := quotedName rest
      (.word name :: ·) <$> namePartsFrom? fuel after
    else if c == '.' then (.dot :: ·) <$> namePartsFrom? fuel rest
    else if c == ',' then (.comma :: ·) <$> namePartsFrom? fuel rest
    else if senderSigns.contains c then none
    else (.word [c] :: ·) <$> namePartsFrom? fuel rest

/-- The parts of a name. -/
def nameParts? (name : String) : Option (List NamePart) :=
  namePartsFrom? name.length name.toList

/-- The text of parts, with blanks drawn together; `blank` if one came last. -/
def joinParts : Bool → List NamePart → List Char
  | _, [] => []
  | _, .word cs :: rest => cs ++ joinParts false rest
  | _, .dot :: rest => '.' :: joinParts false rest
  | blank, _ :: rest => if blank then joinParts true rest else ' ' :: joinParts true rest

/-- The parts before each comma, and those after the last. -/
def splitAtCommas : List NamePart → List (List NamePart)
  | [] => [[]]
  | .comma :: rest => [] :: splitAtCommas rest
  | p :: rest =>
    match splitAtCommas rest with
    | [] => [[p]]
    | first :: more => (p :: first) :: more

/-- A name between quotes. -/
def requotedName (name : List Char) : String :=
  let escaped := name.flatMap fun c => if c == '\\' || c == '"' then ['\\', c] else [c]
  "\"" ++ String.ofList escaped ++ "\""

/-- A name as it is shown, quoted if one of the signs stands in it. -/
def shownName (signs : List Char) (parts : List NamePart) : Option String :=
  let name := joinParts true (parts.reverse.dropWhile (· == .gap)).reverse
  if name.isEmpty then none
  else if name.any signs.contains then some (requotedName name)
  else some (String.ofList name)

/-- The signs that force quotes on a name without an address. -/
def lonelySigns : List Char := ' ' :: '\t' :: senderSigns.filter (· != '.')

/-- The name of a sender and the address behind it. -/
def senderParts (sender : String) : String × String :=
  let (address, name) := sender.toList.reverse.span (· != '<')
  (String.ofList (name.drop 2).reverse, String.ofList (address.drop 1).reverse)

/-- Whether a name opens a group of senders and closes it again. -/
def holdsGroup (name : String) : Bool := (name.toList.dropWhile (· != ':')).contains ';'

/-- Whether blanks and then a dot begin a part of a name. -/
def startsWithGapAndDot (parts : List NamePart) : Bool :=
  parts.head? == some .gap && (parts.dropWhile (· == .gap)).head? == some .dot

/-- What befalls the reader of a name. -/
def senderMishap? (name : String) : Option Mishap :=
  match nameParts? name with
  | none =>
    if holdsGroup name then
      some ⟨.missingAttribute, some "'Group' object has no attribute 'local_part'"⟩
    else none
  | some parts =>
    let segments := splitAtCommas parts
    if segments.any startsWithGapAndDot then
      some ⟨.wrongType, some "'ValueTerminal' object does not support item assignment"⟩
    else if (segments.getLastD []).head? == some .dot then
      some ⟨.missingAttribute, some "'str' object has no attribute 'token_type'"⟩
    else none

/-- A sender as a reader is shown it, from name and address. -/
def shownSender (name address : String) : String :=
  match nameParts? name with
  | none => name ++ " <" ++ address ++ ">"
  | some parts =>
    let segments := splitAtCommas parts
    let last := match shownName senderSigns (segments.getLastD []) with
      | none => address
      | some shown => shown ++ " <" ++ address ++ ">"
    ", ".intercalate (segments.dropLast.filterMap (shownName lonelySigns) ++ [last])

/-- A sender as a reader is shown it, unless something befalls the reader. -/
def readSender (sender : String) : Except Mishap String :=
  let (name, address) := senderParts sender
  match senderMishap? name with
  | some m => .error m
  | none => .ok (shownSender name address)

example : (readSender "Acme Inc. <a@b.c>").toOption = some "\"Acme Inc.\" <a@b.c>" := by cbv

example : (readSender " <a@b.c>").toOption = some "a@b.c" := by cbv

example : (readSender ".NET Careers <a@b.c>").toOption = none := by cbv

end Courier.MailAddress
