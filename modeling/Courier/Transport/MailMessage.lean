import Courier.Failure
import Courier.MailAddress.Sender
import Courier.Record.Basic
import Courier.Text.Blank

/-!
# Mails

The mail that carries a notification: a head that names subject, sender, recipient and notification,
the plain text, and beside it the same in HTML if there is any. Every line of the plain and of the
HTML text is ended, the last one too.

Mails are made with the help of a library (`MailLibrary`) that checks the address of the recipient
and reads the lines of the head as they are set. What is proved of mails is proved for every
library, so that it does not hang on how faithful `MailLibrary.standard` is.
-/

namespace Courier

/-- A mail. -/
structure MailMessage where
  subject : String
  sender : String
  recipient : String
  notification : String
  plain : String
  html : Option String
deriving DecidableEq, Repr, Inhabited

namespace MailMessage

/-- The lines of a text that is cut at line feeds and carriage returns, `line` being the reversed
line that is read. -/
def linesFrom : List Char → List Char → List (List Char)
  | line, [] => if line.isEmpty then [] else [line.reverse]
  | line, '\r' :: '\n' :: rest => line.reverse :: linesFrom [] rest
  | line, c :: rest =>
    if c == '\r' || c == '\n' then line.reverse :: linesFrom [] rest
    else linesFrom (c :: line) rest

/-- A text with every line ended; a text without lines is one empty line. -/
def ended (s : String) : String :=
  String.ofList (['\n'].intercalate (linesFrom [] s.toList) ++ ['\n'])

end MailMessage

/-! ## The library -/

/-- Why a check of addresses gives no address. -/
inductive AddressObjection where
  /-- The address is refused. -/
  | refused (reason : String)
  /-- Something befell the check. -/
  | mishap (m : Mishap)
deriving DecidableEq, Repr

/-- What mails are made with. -/
structure MailLibrary where
  /-- The normal form of an address. -/
  normalize : String → Except AddressObjection String
  /-- A line of the head, given by name and value, as it reads once it is set. -/
  head : String → String → Except Mishap String

/-- The library that mails are made with unless another is named. Of the lines of the head only the
sender reads in a way of its own. -/
def MailLibrary.standard : MailLibrary where
  normalize address := (MailAddress.normalize address).mapError fun fault => .refused fault.message
  head name value := if name = "From" then MailAddress.readSender value else .ok value

/-- A line of the head as it reads; what is set must be one line. -/
def MailLibrary.line (library : MailLibrary) (name value : String) : Except Failure String :=
  if MailAddress.isOneLine value.toList then (library.head name value).mapError .mishap
  else .error .brokenHeader

namespace MailLibrary

variable {library : MailLibrary} {name value shown : String} {m : Mishap}

end MailLibrary

namespace MailMessage

/-- The subject of the mail for a record, on one line. -/
def subjectOf (r : Record) : String := " ".intercalate (Text.words r.subject)

/-- The lines of the head of the mail for a record, by name and value, in the order in which they
are set. -/
def headLines (sender recipient : String) (r : Record) : List (String × String) :=
  [("Subject", subjectOf r), ("From", sender), ("To", recipient), ("X-Notification-Id", r.id)]

/-- The mail for a record from a sender to a recipient. -/
def compose (library : MailLibrary) (sender recipient : String) (r : Record) :
    Except Failure MailMessage := do
  let subject ← library.line "Subject" (subjectOf r)
  let sender ← library.line "From" sender
  let recipient ← library.line "To" recipient
  let notification ← library.line "X-Notification-Id" r.id
  return {
    subject := subject
    sender := sender
    recipient := recipient
    notification := notification
    plain := ended (if r.textBody.isEmpty then r.subject else r.textBody)
    html := if r.htmlBody.isEmpty then none else some (ended r.htmlBody) }

/-- The mail for a record from a sender. -/
def ofRecord (library : MailLibrary) (sender : String) (r : Record) : Except Failure MailMessage :=
  match library.normalize r.address with
  | .error (.refused reason) => .error (.delivery (.badRecipient r.address reason))
  | .error (.mishap m) => .error (.mishap m)
  | .ok recipient => compose library sender recipient r

/-- The kinds of content and the content of a mail, part by part. -/
def parts (m : MailMessage) : List (String × String) :=
  ("text/plain", m.plain) :: (m.html.map fun s => ("text/html", s)).toList

/-- The kind of content of the whole mail. -/
def kind (m : MailMessage) : String :=
  if m.html.isSome then "multipart/alternative" else "text/plain"

end MailMessage

end Courier
