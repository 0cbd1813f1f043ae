import Courier.Calendar.Stamp
import Courier.Form.Issue
import Courier.Json.Basic
import Courier.Log.Handler
import Courier.Template.Fault
import Courier.Transport.Fault

/-!
# Failures

Why an operation on records, preferences or templates did not do what it was asked to. A failure
has a name and a text; either may stand in the log, and the text is what a caller is told.

Some failures are of the program's own making, such as a second record with an identifier that is
taken. Others come from a collaborator: a `Mishap`, or what the driver of the database has to say.
-/

namespace Courier

/-- What kind of statement the driver of the database could not carry out. -/
inductive DriverFault where
  /-- The database cannot do what the statement asks for. -/
  | operational
  /-- The table refuses the row. -/
  | integrity
  /-- A value of the statement has no form in the database. -/
  | statement
deriving DecidableEq, Repr

/-- The name of a fault. -/
def DriverFault.label : DriverFault → String
  | operational => "OperationalError"
  | integrity => "IntegrityError"
  | statement => "StatementError"

/-- Why an operation failed. -/
inductive Failure where
  /-- A record with this identifier is there already. -/
  | duplicate (id : String)
  /-- There is no record with this identifier. -/
  | notFound (id : String)
  /-- The record may not take this step. -/
  | forbiddenMove (id : String) (current requested : Status)
  /-- There is no status with this name. -/
  | unknownStatus (name : String)
  | negativeLimit (limit : Int)
  /-- The number does not fit into an integer of the database. -/
  | hugeLimit
  /-- The moment lies beyond the calendar. -/
  | beyondCalendar
  /-- The distance in time has more days than distances may have. -/
  | hugeDistance (days : Int)
  /-- The distance in time has more days than can be counted. -/
  | countlessDays
  /-- A moment on a clock at an unknown place cannot be compared with others. -/
  | placelessClock
  | nonpositiveAge (seconds : Int)
  | nonpositiveTimeout (text : String)
  | unreadableStamp (fault : Stamp.Fault)
  /-- A form is not what it should be. -/
  | invalid (form : String) (issues : List Issue)
  /-- A template cannot be rendered. -/
  | rendering (template : String) (fault : TextFault)
  /-- Metadata cannot be kept as a document. -/
  | unwritable (fault : Json.Fault)
  /-- A choice is missing where its name is needed. -/
  | namelessChoice
  /-- What the driver of the database says of a statement it could not carry out. -/
  | driver (fault : DriverFault) (text : String)
  /-- Keeping or finding records did not work. -/
  | persistence (text : String)
  /-- The database refused a record. -/
  | integrity (text : String)
  /-- The database could not be opened. -/
  | connection (text : String)
  /-- A transport cannot be made. -/
  | setup (fault : SetupFault)
  /-- A transport refuses a notification. -/
  | delivery (fault : DeliveryFault)
  /-- A line of a mail's head has more than one line. -/
  | brokenHeader
  /-- The system does not follow a path. -/
  | unreachable (path : Path) (fault : Disk.Fault)
  /-- The bytes of a file are no text. -/
  | undecodable (fault : Utf8.Fault)
  /-- A value that a message should show has no text. -/
  | unprintable (fault : TextFault)
  /-- Templates cannot be loaded. -/
  | templates (fault : Template.LoadFault)
  /-- Settings cannot be used. -/
  | settings (report : Report)
  /-- The log cannot be set up. -/
  | logSetup (fault : Log.SetupFault)
  /-- An argument of the command line should name a value and does not. -/
  | assignment (option argument : String)
  | mishap (m : Mishap)
deriving Repr

namespace Failure

/-- The name of a failure. -/
def label : Failure → String
  | duplicate _ => "DuplicateNotificationError"
  | notFound _ => "NotificationNotFoundError"
  | forbiddenMove .. => "InvalidStatusTransition"
  | unknownStatus _ | negativeLimit _ | nonpositiveAge _ | nonpositiveTimeout _
  | unreadableStamp _ => "ValueError"
  | hugeLimit | beyondCalendar | hugeDistance _ | countlessDays => "OverflowError"
  | placelessClock => "TypeError"
  | invalid .. => "ValidationError"
  | rendering .. => "TemplateRenderError"
  | unwritable _ => "PydanticSerializationError"
  | namelessChoice => "AttributeError"
  | driver fault _ => fault.label
  | persistence _ => "PersistenceError"
  | integrity _ => "DataIntegrityError"
  | connection _ => "DatabaseConnectionError"
  | setup fault => fault.label
  | delivery fault => fault.label
  | brokenHeader | logSetup _ | assignment .. => "ValueError"
  | unreachable _ fault => fault.label
  | undecodable _ => Utf8.Fault.label
  | unprintable fault => fault.label
  | templates _ => Template.LoadFault.label
  | settings _ => "ConfigurationError"
  | mishap m => m.label

/-- The text of a failure. -/
def text : Failure → String
  | duplicate id => "Notification " ++ id ++ " already recorded"
  | notFound id => "Notification " ++ id ++ " not found"
  | forbiddenMove id current requested =>
    "Notification " ++ id ++ " cannot move from '" ++ current.name ++ "' to '" ++ requested.name ++
      "'"
  | unknownStatus name => Text.quoted name ++ " is not a valid NotificationStatus"
  | negativeLimit limit => "limit must be non-negative, got: " ++ Value.intText limit
  | hugeLimit => "Python int too large to convert to SQLite INTEGER"
  | beyondCalendar => "date value out of range"
  | hugeDistance days => "days=" ++ Value.intText days ++ "; must have magnitude <= 999999999"
  | countlessDays => "Python int too large to convert to C int"
  | placelessClock => "can't subtract offset-naive and offset-aware datetimes"
  | nonpositiveAge seconds => "stale_after_seconds must be positive, got: " ++ Value.intText seconds
  | nonpositiveTimeout text => "transport_timeout must be positive, got: " ++ text
  | unreadableStamp fault => fault.message
  | invalid form issues => issuesText form issues
  | rendering template fault =>
    "Template " ++ Text.quoted template ++ " failed to render: " ++ fault.message
  | unwritable .unknownKind => "Unable to serialize unknown type"
  | unwritable .undecodable => "invalid utf-8 sequence"
  | namelessChoice => "'NoneType' object has no attribute 'value'"
  | driver _ text => text
  | persistence text => text
  | integrity text => text
  | connection text => text
  | setup fault => fault.message
  | delivery fault => fault.message
  | brokenHeader => "Header values may not contain linefeed or carriage return characters"
  | unreachable path fault => fault.message path
  | undecodable fault => fault.message
  | unprintable fault => fault.message
  | templates fault => fault.message
  | settings report => report.text
  | logSetup fault => fault.message
  | assignment option argument =>
    option ++ " expects key=value, got: " ++ Text.quoted argument
  | mishap m => m.text

/-- The text of a failure, or its name where it has none. -/
def shown (f : Failure) : String := if f.text.isEmpty then f.label else f.text

/-- Whether a failure comes from keeping records. -/
def isPersistence : Failure → Bool
  | persistence _ | integrity _ | connection _ => true
  | mishap m => m.isPersistence
  | _ => false

/-- Whether a failure comes from the driver of the database. -/
def isDriver : Failure → Bool
  | driver .. => true
  | _ => false

/-- Whether a failure is that of a value which was given and is no good. -/
def isBadValue : Failure → Bool
  | mishap m => m.isValue
  | f => ["ValueError", "ValidationError", "UnicodeDecodeError"].contains f.label

/-- Whether the program is being stopped rather than hindered. -/
def isInterrupt : Failure → Bool
  | mishap m => m.isInterrupt
  | _ => false

/-- What the log shows below a message. -/
def trace (f : Failure) : String := f.label ++ (if f.text.isEmpty then "" else ": " ++ f.text)

theorem label_ne_empty (f : Failure) : f.label ≠ "" := by
  cases f with
  | mishap m => exact m.label_ne_empty
  | setup fault =>
    cases fault with
    | port fault => cases fault <;> simp [label, SetupFault.label, WholeFault.label]
    | _ => simp [label, SetupFault.label]
  | delivery fault => cases fault <;> simp [label, DeliveryFault.label]
  | unreachable _ fault => cases fault <;> simp [label, Disk.Fault.label]
  | undecodable => simp [label, Utf8.Fault.label]
  | unprintable fault => cases fault <;> simp [label, TextFault.label]
  | templates => simp [label, Template.LoadFault.label]
  | driver fault => cases fault <;> simp [label, DriverFault.label]
  | _ => simp [label]

theorem shown_ne_empty (f : Failure) : f.shown ≠ "" := by
  unfold shown
  split
  · exact f.label_ne_empty
  · rename_i h
    simpa using h

end Failure

/-- What an operation answers, and what it wrote to the log on the way. -/
structure Reply (α : Type) where
  answer : Except Failure α
  log : List Log.Entry := []

namespace Reply

variable {α β : Type}

/-- A reply without log entries. -/
def quiet (answer : Except Failure α) : Reply α := ⟨answer, []⟩

/-- The reply with a function applied to its answer. -/
def map (f : α → β) (r : Reply α) : Reply β := ⟨r.answer.map f, r.log⟩

@[simp] theorem answer_quiet (answer : Except Failure α) : (quiet answer).answer = answer := rfl

end Reply

end Courier
