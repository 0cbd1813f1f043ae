import Courier.Settings.Report
import Courier.Settings.Section
import Courier.Settings.Sweeper
import Courier.Settings.Transport
import Courier.Text.Path

/-!
# Settings

All settings of the program that a file may hold, section by section. A section that is absent has
its defaults; `Settings.read` reports every problem of every section at once.
-/

namespace Courier

open Form

/-- The settings of the program. -/
structure Settings where
  transport : TransportSettings := {}
  history : HistorySettings := {}
  links : Links := {}
  /-- The file with the templates, if they are not the built-in ones. -/
  templates : Option Path := none
  storage : StorageSettings := {}
  sweeper : SweeperSettings := {}
  log : LogSettings := {}
deriving Repr, Inhabited

namespace Settings

/-- A path. -/
def path : Value → Checked Path
  | .text s => .ok (Path.ofText s)
  | _ => .problem .notAPath

/-- The settings that a form describes. -/
def ofValue (v : Value) : Checked Settings :=
  (Form.ofValue "AppConfig" v).andThen fun form =>
    Settings.mk <$>
      field form "transport" {} TransportSettings.ofValue <*>
      field form "history" {} HistorySettings.ofValue <*>
      field form "links" {} Links.ofValue <*>
      field form "templates_path" none (optional path) <*>
      field form "storage" {} StorageSettings.ofValue <*>
      field form "sweeper" {} SweeperSettings.ofValue <*>
      field form "logging" {} LogSettings.ofValue

/-- What to do about settings that cannot be used. -/
def hint : String := "Compare the file with config.example.yaml"

/-- An issue as the report names it. -/
def issueLine (issue : Issue) : String :=
  (if issue.place.isEmpty then "config" else issue.place) ++ ": " ++ issue.problem.message

/-- The settings that a value describes, or a report on all that is wrong with it. -/
def read (v : Value) : Except Report Settings :=
  match ofValue v with
  | .ok s => .ok s
  | .wrong issues => .error ⟨"Configuration validation failed", issues.map issueLine, [hint]⟩

/-- The settings as a document. -/
def toJson (s : Settings) : Json :=
  .object [("transport", s.transport.toJson), ("history", s.history.toJson),
    ("links", s.links.toJson), ("templates_path", .ofText? (s.templates.map Path.text)),
    ("storage", s.storage.toJson), ("sweeper", s.sweeper.toJson), ("logging", s.log.toJson)]

theorem read_eq_ok_iff {v : Value} {s : Settings} : read v = .ok s ↔ ofValue v = .ok s := by
  unfold read
  split <;> simp_all

end Settings

end Courier
