import Courier.MailAddress.Host
import Courier.MailAddress.Label
import Courier.MailAddress.CharName
import Courier.Text.Blank

/-!
# Mail addresses

An address is a mailbox, an at-sign and a domain. `MailAddress.normalize` checks an address and
brings it into the form that is stored and compared: the mailbox with letters and marks put
together, the domain folded and in its own script. Quoted mailboxes, bracketed hosts and names in
front of an address are recognised and refused.
-/

namespace Courier.MailAddress

open Courier.Text

/-- Which end of a text a sign must not stand at. -/
inductive Side where
  | mailbox
  | domain
deriving DecidableEq, Repr

/-- Why an address is refused. -/
inductive Fault where
  | noAtSign
  | wideAtSign
  | smallAtSign
  | afterQuote (cs : List Char)
  | displayName (cs : List Char)
  | unclosedBracket
  | afterBracket
  | namedAddress
  | unsafeCharacters (cs : List Char)
  | noMailbox
  | mailboxCharacters (cs : List Char)
  | quotedCharacters (cs : List Char)
  /-- The mailbox is refused once its letters and marks are put together. -/
  | afterComposing (fault : Fault)
  | quotedMailbox
  | noDomain
  | bracketedHost
  | host (fault : HostFault)
  | domainCharacters (cs : List Char)
  | refusedCharacter (c : Char) (position : Nat) (domain : String)
  | foldedCharacters (cs : List Char)
  | startsWith (side : Side) (sign : String)
  | endsWith (side : Side) (sign : String)
  | twoPeriods
  | periodAndHyphen
  | hyphensAfterTwoLetters
  | label (fault : LabelFault)
  | longDomain (excess : Nat)
  | longFoldedDomain (excess : Nat)
  | longLabel (excess : Nat)
  | noPeriod
  | topLevel
  | reservedName
  | notALabel (fault : LabelFault)
  | long (reason : String)
deriving Repr

/-- A count of characters that are too many. -/
def tooMany (unit : String) (excess : Nat) : String :=
  toString excess ++ " " ++ unit ++ (if excess = 1 then "" else "s") ++ " too many"

/-- What a caller is told. -/
def Fault.message : Fault → String
  | noAtSign => "An email address must have an @-sign."
  | wideAtSign =>
    "The email address has the \"full-width\" at-sign (@) character instead of a regular at-sign."
  | smallAtSign =>
    "The email address has the \"small commercial at\" character instead of a regular at-sign."
  | afterQuote cs =>
    "Extra character(s) found after close quote: " ++ ", ".intercalate (cs.map describe)
  | displayName cs =>
    "The display name contains invalid characters when not quoted: " ++ describeAll cs ++ "."
  | unclosedBracket =>
    "An open angle bracket at the start of the email address has to be followed by a close " ++
      "angle bracket at the end."
  | afterBracket => "There can't be anything after the email address."
  | namedAddress =>
    "A display name and angle brackets around the email address are not permitted here."
  | unsafeCharacters cs =>
    "The email address contains unsafe characters: " ++ ", ".intercalate (cs.map describe) ++ "."
  | noMailbox => "There must be something before the @-sign."
  | mailboxCharacters cs =>
    "The email address contains invalid characters before the @-sign: " ++ describeAll cs ++ "."
  | quotedCharacters cs =>
    "The email address contains invalid characters in quotes before the @-sign: " ++
      describeAll cs ++ "."
  | afterComposing fault => "After Unicode normalization: " ++ fault.message
  | quotedMailbox => "Quoting the part before the @-sign is not allowed here."
  | noDomain => "There must be something after the @-sign."
  | bracketedHost => "A bracketed IP address after the @-sign is not allowed here."
  | host fault => fault.message
  | domainCharacters cs =>
    "The part after the @-sign contains invalid characters: " ++ describeAll cs ++ "."
  | refusedCharacter c position domain =>
    "The part after the @-sign contains invalid characters (Codepoint " ++ codeName c ++
      " not allowed at position " ++ toString position ++ " in " ++ quoted domain ++ ")."
  | foldedCharacters cs =>
    "The part after the @-sign contains invalid characters after Unicode normalization: " ++
      describeAll cs ++ "."
  | startsWith .mailbox sign => "An email address cannot start with a " ++ sign ++ "."
  | startsWith .domain sign =>
    "An email address cannot have a " ++ sign ++ " immediately after the @-sign."
  | endsWith .mailbox sign =>
    "An email address cannot have a " ++ sign ++ " immediately before the @-sign."
  | endsWith .domain sign => "An email address cannot end with a " ++ sign ++ "."
  | twoPeriods => "An email address cannot have two periods in a row."
  | periodAndHyphen => "An email address cannot have a period and a hyphen next to each other."
  | hyphensAfterTwoLetters =>
    "An email address cannot have two letters followed by two dashes immediately after the " ++
      "@-sign or after a period, except Punycode."
  | label fault => "The part after the @-sign is invalid (" ++ fault.message ++ ")."
  | longDomain excess =>
    "The email address is too long after the @-sign (" ++ tooMany "character" excess ++ ")."
  | longFoldedDomain excess =>
    "The email address is too long after the @-sign (" ++ tooMany "byte" excess ++
      " after IDNA encoding)."
  | longLabel excess =>
    "After the @-sign, periods cannot be separated by so many characters (" ++
      tooMany "character" excess ++ ")."
  | noPeriod => "The part after the @-sign is not valid. It should have a period."
  | topLevel =>
    "The part after the @-sign is not valid. It is not within a valid top-level domain."
  | reservedName =>
    "The part after the @-sign is a special-use or reserved name that cannot be used with email."
  | notALabel fault => "The part after the @-sign is not valid IDNA (" ++ fault.message ++ ")."
  | long reason => "The email address is too long (" ++ reason ++ ")."

/-! ## Taking an address apart -/

/-- Whether a character stands for itself, and does not join a mark after it. -/
def standsAlone (c : Char) (rest : List Char) : Bool :=
  match rest with
  | d :: _ => !(isMark d && (composed [c, d]).length == 1)
  | [] => true

/-- Where an unquoted sign splits a text. -/
inductive Reading where
  | plain
  | quoted
  | escaped
deriving DecidableEq

/-- The text before the first unquoted sign, and the text from that sign on. -/
def splitAtSign (isSign : Char → Bool) : Reading → List Char → List Char × List Char
  | _, [] => ([], [])
  | reading, c :: rest =>
    let go (next : Reading) : List Char × List Char :=
      let parts := splitAtSign isSign next rest
      (c :: parts.1, parts.2)
    if !standsAlone c rest then go reading
    else match reading with
      | .plain =>
        if c == '"' then go .quoted else if isSign c then ([], c :: rest) else go .plain
      | .quoted => if c == '\\' then go .escaped else if c == '"' then go .plain else go .quoted
      | .escaped => go .quoted

/-- The content of a text after its opening quote, and what follows the closing quote. -/
def unquoteFrom : Bool → List Char → List Char × Option (List Char)
  | _, [] => ([], none)
  | escaped, c :: rest =>
    let keep (next : Bool) : List Char × Option (List Char) :=
      let parts := unquoteFrom next rest
      (c :: parts.1, parts.2)
    if escaped then keep false
    else if c == '\\' then unquoteFrom true rest
    else if c == '"' then ([], some rest)
    else keep false

/-- A text without the quotes around it, and whether it had any. -/
def unquote : List Char → Except Fault (List Char × Bool)
  | '"' :: rest =>
    match unquoteFrom false rest with
    | (content, some []) | (content, none) => .ok (content, true)
    | (_, some extra) => .error (.afterQuote extra)
  | cs => .ok (cs, false)

/-- A text split at its first unquoted sign. -/
def split (isSign : Char → Bool) (cs : List Char) : Except Fault (List Char × List Char) :=
  match splitAtSign isSign .plain cs with
  | (_, []) =>
    if cs.any fun c => c.toNat == 0xff20 then .error .wideAtSign
    else if cs.any fun c => c.toNat == 0xfe6b then .error .smallAtSign
    else .error .noAtSign
  | parts => .ok parts

/-- The signs that a mailbox may hold beside letters and digits. -/
def mailboxSigns : List Char :=
  ['_', '!', '#', '$', '%', '&', '\'', '*', '+', '-', '/', '=', '?', '^', '\x60', '\x7b', '|',
   '\x7d', '~']

/-- Whether a mailbox may hold a character of ASCII. -/
def isAtomChar (c : Char) : Bool := c.isAlphanum || mailboxSigns.contains c

/-- Whether a mailbox may hold a character. -/
def isMailboxChar (c : Char) : Bool := isAtomChar c || 127 < c.toNat

/-- The characters that make a text unsafe: marks at its start, controls, and blanks where they are
not allowed. -/
def unsafeChars (blanks : Bool) (cs : List Char) : List Char :=
  let bad := cs.tail.filter fun c => !isSeen c && !isMark c && !(blanks && c == ' ')
  let first := cs.head?.toList.filter fun c => !isSeen c && !(blanks && c == ' ')
  ((first ++ bad).eraseDups).mergeSort fun a b => a.toNat ≤ b.toNat

/-- Refuse a text with unsafe characters. -/
def checkSafe (blanks : Bool) (cs : List Char) : Except Fault Unit :=
  let bad := unsafeChars blanks cs
  if bad.isEmpty then .ok () else .error (.unsafeCharacters bad)

/-- An address taken apart. -/
structure Parts where
  mailbox : List Char
  quotedMailbox : Bool
  domain : List Char
  /-- Whether a name stands in front, or brackets around the address. -/
  named : Bool
deriving Repr

/-- The address between the brackets that follow a name. -/
def bracketed (name rest : List Char) : Except Fault (List Char) := do
  let (shown, quotedName) ← unquote (trimEnd name)
  let odd := shown.filter fun c => (!isAtomChar c && c != ' ') || c == '.'
  if !quotedName && !odd.isEmpty then .error (.displayName odd)
  checkSafe true shown
  let rest := (rest.reverse.dropWhile (· == ' ')).reverse
  if !rest.contains '>' then .error .unclosedBracket
  else if rest.getLast? != some '>' then .error .afterBracket
  else .ok ((rest.drop 1).reverse.dropWhile (· == '>')).reverse

/-- Take an address apart. -/
def parts (cs : List Char) : Except Fault Parts := do
  let (left, right) ← split (fun c => c == '@' || c == '<') cs
  let named := right.head? == some '<'
  let (left, right) ← if named then do
      let address ← bracketed left right
      split (· == '@') address
    else pure (left, right)
  let (mailbox, isQuoted) ← unquote left
  return ⟨mailbox, isQuoted, right.drop 1, named⟩

/-! ## The mailbox -/

/-- Whether a sign stands twice in a row, or two signs stand side by side. -/
def adjacent (a b : Char) : List Char → Bool
  | c :: d :: rest => (c == a && d == b) || adjacent a b (d :: rest)
  | _ => false

/-- Refuse periods, and hyphens of a domain, where they may not stand. -/
def checkPeriods (side : Side) (cs : List Char) : Except Fault Unit :=
  if cs.getLast? == some '.' then .error (.endsWith side "period")
  else if cs.head? == some '.' then .error (.startsWith side "period")
  else if adjacent '.' '.' cs then .error .twoPeriods
  else if side = .mailbox then .ok ()
  else if cs.getLast? == some '-' then .error (.endsWith side "hyphen")
  else if cs.head? == some '-' then .error (.startsWith side "hyphen")
  else if adjacent '.' '-' cs || adjacent '-' '.' cs then .error .periodAndHyphen
  else .ok ()

/-- Whether a text is made of runs of characters with single periods between them. -/
def isDotted (isPart : Char → Bool) (cs : List Char) : Bool :=
  (splitOn (· == '.') cs).all fun part => !part.isEmpty && part.all isPart

/-- A mailbox that was quoted, quoted again with no more escapes than it needs. -/
def requoted (cs : List Char) : List Char :=
  '"' :: (cs.flatMap fun c => if c == '"' || c == '\\' then ['\\', c] else [c]) ++ ['"']

/-- The checked form of a mailbox. -/
def checkMailbox (isQuoted : Bool) (cs : List Char) : Except Fault (List Char) :=
  if cs.isEmpty then .error .noMailbox
  else if isDotted isAtomChar cs then .ok cs
  else if isDotted isMailboxChar cs then (checkSafe false cs).map fun _ => cs
  else if isQuoted then
    let bad := cs.filter fun c => c.toNat < 32 || c.toNat == 127
    if !bad.isEmpty then .error (.quotedCharacters bad)
    else (checkSafe true cs).map fun _ => requoted cs
  else
    let bad := cs.filter fun c => !isMailboxChar c && c != '.'
    if !bad.isEmpty then .error (.mailboxCharacters bad)
    else (checkPeriods .mailbox cs).bind fun _ => .error (.mailboxCharacters [])

/-- Mailboxes whose case does not matter. -/
def caselessMailboxes : List String :=
  ["info", "marketing", "sales", "support", "abuse", "noc", "security", "postmaster", "hostmaster",
   "usenet", "news", "webmaster", "www", "uucp", "ftp"]

/-- The normal form of a mailbox. -/
def normalMailbox (isQuoted : Bool) (cs : List Char) : Except Fault (List Char) := do
  let checked ← checkMailbox isQuoted cs
  let whole := composed checked
  if whole != checked then
    match checkMailbox isQuoted whole with
    | .error fault => .error (.afterComposing fault)
    | .ok _ => pure ()
  if isQuoted then .error .quotedMailbox
  let lower := whole.map Char.toLower
  return if isAscii whole && caselessMailboxes.contains (String.ofList lower) then lower else whole

/-! ## The domain -/

/-- Whether a domain may hold a character. -/
def isDomainChar (c : Char) : Bool :=
  c.isAlphanum || c == '-' || c == '.' || 127 < c.toNat

/-- Names that no address may end in. -/
def reservedNames : List String := ["arpa", "invalid", "local", "localhost", "onion", "test"]

/-- Whether a domain is a reserved name or lies below one. -/
def isReserved (domain : List Char) : Bool :=
  reservedNames.any fun name =>
    domain == name.toList || (('.' :: name.toList).reverse).isPrefixOf domain.reverse

/-- The most characters of a domain. -/
def domainLimit : Nat := 253

/-- The parts of a domain, joined again. -/
def joinLabels (labels : List (List Char)) : List Char := ['.'].intercalate labels

/-- Whether a label begins with two letters and two hyphens without being the ASCII text of
another. -/
def hasStrayHyphens (label : List Char) : Bool :=
  let two := (label.take 2).map Char.toLower
  4 ≤ label.length && (label.drop 2).take 2 == ['-', '-'] && two != ['x', 'n']

/-- The ASCII text of a domain and its form in its own script. -/
def normalDomain (domain : List Char) : Except Fault (List Char × List Char) := do
  let bad := domain.filter fun c => !isDomainChar c
  if !bad.isEmpty then .error (.domainCharacters bad)
  checkSafe false domain
  let plain ← match folded domain with
    | .ok plain => pure plain
    | .error (position, c) => .error (.refusedCharacter c position (String.ofList domain))
  let bad := plain.filter fun c => !isDomainChar c
  if !bad.isEmpty then .error (.foldedCharacters bad)
  checkPeriods .domain plain
  let labels := splitOn (· == '.') plain
  if labels.any hasStrayHyphens then .error .hyphensAfterTwoLetters
  let ascii ← if isAscii plain then pure plain
    else (joinLabels <$> labels.mapM toAscii).mapError .label
  if domainLimit < ascii.length then
    if ascii == domain then .error (.longDomain (ascii.length - domainLimit))
    else .error (.longFoldedDomain (ascii.length - domainLimit))
  match (splitOn (· == '.') ascii).find? fun l => labelLimit < l.length with
  | some l => .error (.longLabel (l.length - labelLimit))
  | none => pure ()
  if !ascii.contains '.' then .error .noPeriod
  if !ascii.getLast?.any Char.isAlpha then .error .topLevel
  if isReserved ascii then .error .reservedName
  let own ← (joinLabels <$> (splitOn (· == '.') ascii).mapM ofAscii).mapError .notALabel
  checkSafe false own
  return (ascii, own)

/-! ## The whole address -/

/-- The most bytes of an address. -/
def addressLimit : Nat := 254

/-- The bytes of a text. -/
def byteCount (cs : List Char) : Nat := cs.foldr (fun c n => c.utf8Size + n) 0

/-- Refuse a form of an address that is too long, where `note` says which form it is. -/
def checkLength (cs : List Char) (note : Option String) : Except Fault Unit :=
  let excess := byteCount cs - addressLimit
  if excess = 0 then .ok ()
  else match note with
    | some note => .error (.long (note ++ ", " ++ tooMany "byte" excess))
    | none =>
      let widest := (cs.map Char.utf8Size).max?.getD 1
      let least := max 1 (excess / widest)
      if byteCount cs = cs.length || least = excess then
        .error (.long (tooMany "character" excess))
      else .error (.long (toString least ++ "-" ++ tooMany "character" excess))

/-- The normal form of an address. -/
def normalize (address : String) : Except Fault String := do
  let p ← parts address.toList
  let mailbox ← normalMailbox p.quotedMailbox p.mailbox
  if p.domain.isEmpty then .error .noDomain
  if p.domain.head? == some '[' && p.domain.getLast? == some ']' then
    (checkHost (p.domain.drop 1).dropLast).mapError Fault.host
    .error .bracketedHost
  let (ascii, own) ← normalDomain p.domain
  checkLength (p.mailbox ++ '@' :: p.domain) none
  checkLength (mailbox ++ '@' :: own) (some "after normalization")
  checkLength (mailbox ++ '@' :: ascii)
    (some "when the part after the @-sign is converted to IDNA ASCII")
  if p.named then .error .namedAddress
  return String.ofList (mailbox ++ '@' :: own)

end Courier.MailAddress
