import Courier.Interview
import Courier.Preference.Basic
import Courier.Receipt
import Courier.Settings.Section
import Courier.Settings.Sweeper
import Courier.Settings.Transport
import Courier.Stats.Basic
import Courier.Template.Basic

/-!
# The catalog of forms

Forms by their names, with the check of each and the document that an accepted form makes. The form
of a record is not among them: it can be refused for more reasons than issues.
-/

namespace Courier.Form

/-- The forms with their checks. -/
def catalog : List (String × (Value → Checked Json)) :=
  [("Template", fun v => (Template.ofValue v).map Template.toJson),
    ("QuietHours", fun v => (QuietHours.ofValue v).map QuietHours.toJson),
    ("Preference", fun v => (Preference.ofValue v).map Preference.toJson),
    ("SendResult", fun v => (Receipt.ofValue v).map Receipt.toJson),
    ("NotificationStats", fun v => (Stats.ofValue v).map Stats.toJson),
    ("InterviewDetails", fun v => (Interview.ofValue v).map Interview.toJson),
    ("TransportConfig", fun v => (TransportSettings.ofValue v).map TransportSettings.toJson),
    ("HistoryConfig", fun v => (HistorySettings.ofValue v).map HistorySettings.toJson),
    ("LinksConfig", fun v => (Links.ofValue v).map Links.toJson),
    ("StorageConfig", fun v => (StorageSettings.ofValue v).map StorageSettings.toJson),
    ("SweeperConfig", fun v => (SweeperSettings.ofValue v).map SweeperSettings.toJson),
    ("LoggingConfig", fun v => (LogSettings.ofValue v).map LogSettings.toJson)]

end Courier.Form
