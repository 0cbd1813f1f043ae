import Courier.Text.Quoted

/-!
# Mishaps

What a collaborator of the program, a mail server or a database or the clock, may answer with
instead of doing its work. A mishap has a kind and mostly a reason.

A kind is told by its name and by the families it belongs to, since that is all the program looks
at. Kinds without a name of their own here are as good as the others. The families overlap: what
goes wrong with mail or with a request goes wrong with the system as well.
-/

namespace Courier

/-- A kind of mishap. -/
structure Mishap.Kind where
  /-- The name of the kind in messages. -/
  label : String
  /-- Where the kind is at home, as the log shows it before the name. -/
  home : String := ""
  /-- Whether the program is being stopped rather than hindered. -/
  isInterrupt : Bool := false
  /-- Whether a value that was given is no good. -/
  isValue : Bool := false
  /-- Whether a key is missing; such a kind shows its reason between quotes. -/
  isKey : Bool := false
  /-- Whether the mishap comes from keeping records. -/
  isPersistence : Bool := false
  /-- Whether it comes from talking to a mail server. -/
  isMail : Bool := false
  /-- Whether a request took too long. -/
  isRequestTimeout : Bool := false
  /-- Whether a request failed. -/
  isRequest : Bool := isRequestTimeout
  /-- Whether the mishap comes from the system, the network included. -/
  isSystem : Bool := isMail || isRequest
  label_ne_empty : label ≠ "" := by decide
  isSystem_of_isMail : isMail = true → isSystem = true := by decide
  isRequest_of_isRequestTimeout : isRequestTimeout = true → isRequest = true := by decide
  isSystem_of_isRequest : isRequest = true → isSystem = true := by decide
  /-- What stops the program belongs to none of the families. -/
  none_of_isInterrupt :
    isInterrupt = true → (isValue || isKey || isPersistence || isSystem) = false := by decide
deriving DecidableEq, Repr

namespace Mishap.Kind

def value : Kind := { label := "ValueError", isValue := true }

def runtime : Kind := { label := "RuntimeError" }

def missingAttribute : Kind := { label := "AttributeError" }

def missingItem : Kind := { label := "IndexError" }

def overflow : Kind := { label := "OverflowError" }

def wrongType : Kind := { label := "TypeError" }

def connection : Kind := { label := "ConnectionError", isSystem := true }

def timeout : Kind := { label := "TimeoutError", isSystem := true }

def key : Kind := { label := "KeyError", isKey := true }

def system : Kind := { label := "OSError", isSystem := true }

def interrupt : Kind := { label := "KeyboardInterrupt", isInterrupt := true }

def persistence : Kind :=
  { label := "PersistenceError", home := "notify_engine.persistence.exceptions."
    isPersistence := true }

def integrity : Kind :=
  { label := "DataIntegrityError", home := "notify_engine.persistence.exceptions."
    isPersistence := true }

def mail : Kind := { label := "SMTPException", home := "smtplib.", isMail := true }

def mailDisconnected : Kind :=
  { label := "SMTPServerDisconnected", home := "smtplib.", isMail := true }

def request : Kind :=
  { label := "RequestException", home := "requests.exceptions.", isRequest := true }

def requestConnection : Kind :=
  { label := "ConnectionError", home := "requests.exceptions.", isRequest := true }

def requestTimeout : Kind :=
  { label := "Timeout", home := "requests.exceptions.", isRequestTimeout := true }

def connectTimeout : Kind :=
  { label := "ConnectTimeout", home := "requests.exceptions.", isRequestTimeout := true }

/-- The kinds that have a name of their own here. -/
def all : List Kind :=
  [value, runtime, missingAttribute, missingItem, overflow, wrongType, connection, timeout, key,
    system, interrupt, persistence, integrity, mail, mailDisconnected, requestTimeout,
    connectTimeout, request, requestConnection]

/-- The first of them with a label. -/
def ofLabel? (s : String) : Option Kind := all.find? fun kind => kind.label == s

end Mishap.Kind

instance : Inhabited Mishap.Kind := ⟨.runtime⟩

/-- A mishap. -/
structure Mishap where
  kind : Mishap.Kind
  reason : Option String
deriving DecidableEq, Repr, Inhabited

namespace Mishap

/-- The name of a mishap's kind. -/
def label (m : Mishap) : String := m.kind.label

/-- The text of a mishap: its reason, which a missing key shows between quotes. -/
def text (m : Mishap) : String :=
  match m.reason with
  | none => ""
  | some reason => if m.kind.isKey then Text.quoted reason else reason

/-- The lines that the log shows below a message. -/
def trace (m : Mishap) : String :=
  let name := m.kind.home ++ m.kind.label
  if m.text.isEmpty then name else name ++ ": " ++ m.text

/-- Whether the program is being stopped rather than hindered. -/
def isInterrupt (m : Mishap) : Bool := m.kind.isInterrupt

/-- Whether a value that was given is no good. -/
def isValue (m : Mishap) : Bool := m.kind.isValue

/-- Whether a mishap comes from keeping records. -/
def isPersistence (m : Mishap) : Bool := m.kind.isPersistence

/-- Whether a mishap comes from talking to a mail server. -/
def isMail (m : Mishap) : Bool := m.kind.isMail

/-- Whether a request took too long. -/
def isRequestTimeout (m : Mishap) : Bool := m.kind.isRequestTimeout

/-- Whether a request failed. -/
def isRequest (m : Mishap) : Bool := m.kind.isRequest

/-- Whether a mishap comes from the system, the network included. -/
def isSystem (m : Mishap) : Bool := m.kind.isSystem

theorem label_ne_empty (m : Mishap) : m.label ≠ "" := m.kind.label_ne_empty

theorem isSystem_of_isMail {m : Mishap} (h : m.isMail = true) : m.isSystem = true :=
  m.kind.isSystem_of_isMail h

theorem isRequest_of_isRequestTimeout {m : Mishap} (h : m.isRequestTimeout = true) :
    m.isRequest = true :=
  m.kind.isRequest_of_isRequestTimeout h

/-- What stops the program comes neither from a value nor from keeping records. -/
theorem none_of_isInterrupt {m : Mishap} (h : m.isInterrupt = true) :
    m.isValue = false ∧ m.isPersistence = false := by
  have none := m.kind.none_of_isInterrupt h
  simp only [Bool.or_eq_false_iff] at none
  exact ⟨none.1.1.1, none.1.2⟩

end Mishap

end Courier
