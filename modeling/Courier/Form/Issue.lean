import Courier.MailAddress.Basic
import Courier.Record.Status
import Courier.Settings.Duration

/-!
# What is wrong with a form

A form is a value that should have certain fields. An `Issue` says where in the form something is
wrong and what; `Problem.message` words it.
-/

namespace Courier

/-- What can be wrong with a date and time given as text. -/
inductive TimeProblem where
  | short
  | yearCharacter
  | monthCharacter
  | dayCharacter
  | separator
  | month
  | day
  | trailing
  /-- The count of seconds lies before the years that counts are read for. -/
  | early
  /-- The count of seconds lies beyond the last year. -/
  | late
deriving DecidableEq, Repr

/-- What a caller is told. -/
def TimeProblem.message : TimeProblem → String
  | short => "input is too short"
  | yearCharacter => "invalid character in year"
  | monthCharacter => "invalid character in month"
  | dayCharacter => "invalid character in day"
  | separator => "invalid date separator, expected \x60-\x60"
  | month => "month value is outside expected range of 1-12"
  | day => "day value is outside expected range"
  | trailing => "unexpected extra characters at the end of the input"
  | early => "dates before 1600 are not supported as unix timestamps"
  | late => "dates after 9999 are not supported as unix timestamps"

/-- A limit that a number keeps. -/
inductive Bound where
  | above (n : Int)
  | atLeast (n : Int)
  | atMost (n : Int)
deriving DecidableEq, Repr

/-- The words for a limit. -/
def Bound.message : Bound → String
  | above n => "greater than " ++ Value.intText n
  | atLeast n => "greater than or equal to " ++ Value.intText n
  | atMost n => "less than or equal to " ++ Value.intText n

/-- What is wrong with one part of a form. -/
inductive Problem where
  | missing
  | notAForm (name : String)
  | notText
  | undecodable
  | emptyText
  | notAList
  | notABag
  | notABoolean
  | unclearBoolean
  | notAnInteger
  | unreadableInteger
  | hugeInteger
  | brokenInteger
  | infiniteInteger
  | notANumber
  | unreadableNumber
  | beyond (bound : Bound)
  | notAChoice (choices : List String)
  | notATime
  | unreadableTime (problem : TimeProblem)
  | notAPath
  | blankIdentifier
  | notAClock (text : String)
  | address (text : String) (fault : MailAddress.Fault)
  | unknownSwitches (names known : List String)
  | updatedBeforeCreated
  | sentMismatch (status : Status)
  | errorMismatch (status : Status)
  | deliveredMismatch (status : Status)
  | notAnEndpoint (text : String)
  | emptyLink
  | duration (fault : Duration.Fault)
  | shortInterval (text : String)
  | longInterval (text : String)
deriving Repr

/-- Choices as a message lists them. -/
def listed (choices : List String) : String :=
  match choices.map fun c => "'" ++ c ++ "'" with
  | [] => ""
  | [one] => one
  | several => ", ".intercalate several.dropLast ++ " or " ++ several.getLast?.getD ""

/-- A complaint of a rule of this program, beyond the shape of the form. -/
def complaint (text : String) : String := "Value error, " ++ text

/-- What a caller is told. -/
def Problem.message : Problem → String
  | missing => "Field required"
  | notAForm name => "Input should be a valid dictionary or instance of " ++ name
  | notText => "Input should be a valid string"
  | undecodable => "Input should be a valid string, unable to parse raw data as a unicode string"
  | emptyText => "String should have at least 1 character"
  | notAList => "Input should be a valid list"
  | notABag => "Input should be a valid dictionary"
  | notABoolean => "Input should be a valid boolean"
  | unclearBoolean => "Input should be a valid boolean, unable to interpret input"
  | notAnInteger => "Input should be a valid integer"
  | unreadableInteger => "Input should be a valid integer, unable to parse string as an integer"
  | hugeInteger => "Unable to parse input string as an integer, exceeded maximum size"
  | brokenInteger => "Input should be a valid integer, got a number with a fractional part"
  | infiniteInteger => "Input should be a finite number"
  | notANumber => "Input should be a valid number"
  | unreadableNumber => "Input should be a valid number, unable to parse string as a number"
  | beyond bound => "Input should be " ++ bound.message
  | notAChoice choices => "Input should be " ++ listed choices
  | notATime => "Input should be a valid datetime"
  | unreadableTime problem =>
    "Input should be a valid datetime or date, " ++ problem.message
  | notAPath => "Input is not a valid path for <class 'pathlib.Path'>"
  | blankIdentifier => complaint "Field cannot be empty or whitespace-only"
  | notAClock text => complaint ("Expected HH:MM (24h clock), got: " ++ Text.quoted text)
  | address text fault =>
    complaint ("Invalid email address '" ++ text ++ "': " ++ fault.message)
  | unknownSwitches names known =>
    complaint ("Unknown preference toggles: " ++ ", ".intercalate names ++
      ". Known toggles: " ++ ", ".intercalate known)
  | updatedBeforeCreated => complaint "updated_at cannot precede created_at"
  | sentMismatch status =>
    complaint ("sent_at must be set iff status is sent or delivered (status=" ++ status.name ++
      ")")
  | errorMismatch status =>
    complaint ("error must be set iff status is failed (status=" ++ status.name ++ ")")
  | deliveredMismatch status =>
    complaint ("delivered_at must be set iff status is delivered (status=" ++ status.name ++ ")")
  | notAnEndpoint text =>
    complaint ("endpoint must be an http(s) URL, got: " ++ Text.quoted text)
  | emptyLink => complaint "URL cannot be empty"
  | duration fault => complaint fault.message
  | shortInterval text =>
    complaint ("Sweep interval too short: " ++ text ++ ". Minimum is 30s.")
  | longInterval text => complaint ("Sweep interval too long: " ++ text ++ ". Maximum is 1d.")

/-- A part of a form, named by the fields and positions that lead to it, and what is wrong there. -/
structure Issue where
  path : List String
  problem : Problem
deriving Repr

namespace Issue

/-- The path with arrows between its steps. -/
def place (issue : Issue) : String := " -> ".intercalate issue.path

/-- The place and the problem on one line. -/
def line (issue : Issue) : String := issue.place ++ ": " ++ issue.problem.message

/-- The issue as it looks from a form around this one. -/
def within (step : String) (issue : Issue) : Issue := { issue with path := step :: issue.path }

end Issue

/-- What is wrong with a whole form, as it is shown to a user. -/
def issuesText (form : String) (issues : List Issue) : String :=
  let count := issues.length
  "\n".intercalate
    ((Value.natText count ++ " validation error" ++ (if count = 1 then "" else "s") ++ " for " ++
        form) ::
      issues.map fun issue =>
        (if issue.path.isEmpty then "" else ".".intercalate issue.path ++ "\n") ++ "  " ++
          issue.problem.message)

end Courier
