import Courier.Form.Basic
import Courier.Json.Basic
import Courier.Log.Entry

/-!
# The smaller sections of the settings

How many records a query shows, the links put into messages, where records are kept and how the log
is written.
-/

namespace Courier

open Form

/-! ## History -/

/-- Settings of queries. -/
structure HistorySettings where
  defaultLimit : Int := 50
deriving DecidableEq, Repr, Inhabited

namespace HistorySettings

/-- The settings that a form describes. -/
def ofValue (v : Value) : Checked HistorySettings :=
  (Form.ofValue "HistoryConfig" v).andThen fun form =>
    HistorySettings.mk <$>
      field form "default_limit" 50 (integerWithin [.atMost 1000, .atLeast 0])

/-- The settings as a document. -/
def toJson (s : HistorySettings) : Json := .object [("default_limit", .int s.defaultLimit)]

end HistorySettings

/-! ## Links -/

/-- The web addresses that messages lead to. -/
structure Links where
  dashboard : String := "https://talentbridge.com/student/applications"
  calendar : String := "https://talentbridge.com/calendar/add"
  reschedule : String := "https://talentbridge.com/interview/reschedule"
deriving DecidableEq, Repr, Inhabited

namespace Links

/-- A link without the blanks at its ends, which must leave something. -/
def link (v : Value) : Checked String :=
  (text v).andThen fun s =>
    if (Text.trim s).isEmpty then .problem .emptyLink else .ok (Text.trim s)

/-- The links that a form describes. -/
def ofValue (v : Value) : Checked Links :=
  (Form.ofValue "LinksConfig" v).andThen fun form =>
    let defaults : Links := {}
    Links.mk <$> field form "dashboard_url" defaults.dashboard link <*>
      field form "calendar_url" defaults.calendar link <*>
      field form "reschedule_url" defaults.reschedule link

/-- The links as a document. -/
def toJson (l : Links) : Json :=
  .object [("dashboard_url", .text l.dashboard), ("calendar_url", .text l.calendar),
    ("reschedule_url", .text l.reschedule)]

end Links

/-! ## Storage -/

/-- Where records are kept; without a database they are kept in memory. -/
structure StorageSettings where
  databaseUrl : Option String := none
deriving DecidableEq, Repr, Inhabited

namespace StorageSettings

/-- The settings that a form describes. -/
def ofValue (v : Value) : Checked StorageSettings :=
  (Form.ofValue "StorageConfig" v).andThen fun form =>
    StorageSettings.mk <$> field form "database_url" none (optional text)

/-- The settings as a document. -/
def toJson (s : StorageSettings) : Json := .object [("database_url", .ofText? s.databaseUrl)]

end StorageSettings

/-! ## Log -/

/-- The forms of a log line that settings can name. -/
inductive LogFormat where
  | json
  | keyValue
deriving DecidableEq, Repr, Inhabited

namespace LogFormat

/-- The name of a form. -/
def name : LogFormat → String
  | json => "json"
  | keyValue => "key-value"

/-- Every form, in the order in which they are listed to users. -/
def all : List LogFormat := [json, keyValue]

/-- The form of a name. -/
def ofName? (s : String) : Option LogFormat := all.find? fun format => format.name == s

end LogFormat

namespace Log.Level

/-- Every level, from the least grave on. -/
def all : List Level := [debug, info, warning, error, critical]

/-- The level of a name. -/
def ofName? (s : String) : Option Level := all.find? fun level => level.name == s

end Log.Level

/-- Settings of the log. What was not said stays apart from what was said, although the effect is
the same in most places. -/
structure LogSettings where
  level : Option Log.Level := none
  format : Option LogFormat := none
deriving DecidableEq, Repr, Inhabited

namespace LogSettings

/-- The settings that a form describes. -/
def ofValue (v : Value) : Checked LogSettings :=
  (Form.ofValue "LoggingConfig" v).andThen fun form =>
    LogSettings.mk <$>
      field form "level" none (fun v =>
        (choice (Log.Level.all.map Log.Level.name) Log.Level.ofName? v).map some) <*>
      field form "format" none (fun v =>
        (choice (LogFormat.all.map LogFormat.name) LogFormat.ofName? v).map some)

/-- The level in force. -/
def levelInForce (s : LogSettings) : Log.Level := s.level.getD .info

/-- The form in force. -/
def formatInForce (s : LogSettings) : LogFormat := s.format.getD .keyValue

/-- The settings as a document. -/
def toJson (s : LogSettings) : Json :=
  .object [("level", .text s.levelInForce.name), ("format", .text s.formatInForce.name)]

end LogSettings

end Courier
