import Courier.Disk
import Courier.Settings.Requirement
import Courier.Settings.Warning
import Courier.Yaml.Document

/-!
# Files with settings

Settings come from a YAML file and from the environment together. Where both name a database or a
level of the log, the environment wins. Settings that are merely unwise are warned about as soon as
the file is read, before anything is checked.

`loadWith` takes any interpreter of YAML texts, `load` that of this library.
-/

namespace Courier.Settings

/-- Where settings are looked for unless a file is named. -/
def usualPaths : List Path := [⟨0, ["config.yaml"]⟩, ⟨0, ["config", "config.yaml"]⟩]

/-- What to do when there are no settings. -/
def exampleHint : String := "Copy config.example.yaml to config.yaml"

/-- The report on a path that leads to no file. -/
def notFound (path : Path) : Report :=
  ⟨"Specified configuration file not found: " ++ path.text, [],
    ["Check the --config path", exampleHint]⟩

/-- The report on settings that are in none of the usual places. -/
def nowhere : Report :=
  ⟨"Configuration file not found", usualPaths.map fun path => "Tried: " ++ path.text,
    [exampleHint, "Pass --config with the file location"]⟩

/-- The file with the settings. Of a name that is too long the system does not even say whether
there is such a file. -/
def locate (d : Disk) : Option Path → Except Failure Path
  | some path =>
    match d.find path with
    | .error .nameTooLong => .error (.unreachable path .nameTooLong)
    | _ => if d.hasFile path then .ok path else .error (.settings (notFound path))
  | none =>
    match usualPaths.find? d.hasFile with
    | some path => .ok path
    | none => .error (.settings nowhere)

/-- The bag of settings in a text, as an interpreter makes it a document; a text without a document
names none. -/
def bagOf (read : Yaml.Interpreter) (path : Path) (text : String) : Except Failure Bag :=
  match read text with
  | .error (.form reason) =>
    .error (.settings ⟨"Failed to parse YAML in " ++ path.text ++ ": " ++ reason, [],
      ["Indent with spaces, not tabs"]⟩)
  | .error (.mishap m) => .error (.mishap m)
  | .ok .null => .ok []
  | .ok (.dict bag) => .ok bag
  | .ok _ =>
    .error (.settings ⟨path.text ++ " must contain a mapping at the top level", [], [hint]⟩)

/-- The bag of settings in a file. -/
def bagIn (read : Yaml.Interpreter) (d : Disk) (path : Path) : Except Failure Bag :=
  match d.text path with
  | .ok text => bagOf read path text
  | .error (.bytes fault) => .error (.undecodable fault)
  | .error (.file fault) =>
    .error (.settings ⟨"Failed to read " ++ path.text ++ ": " ++ fault.message path, [], []⟩)

/-- Settings with what the environment says instead. -/
def overruled (s : Settings) (e : Environment) : Settings :=
  { s with
    storage := match Text.given e.databaseUrl with
      | some url => ⟨some url⟩
      | none => s.storage
    log := match (Text.given e.logLevel).bind Log.Level.ofName? with
      | some level => { s.log with level := some level }
      | none => s.log }

/-- The settings of a bag and of the environment. -/
def combine (bag : Bag) (get : Environment.Variables) : Except Report (Settings × Environment) := do
  let own ← read (.dict bag)
  let environment ← Environment.read get
  let settings := own.overruled environment
  Requirement.check settings.transport environment
  return (settings, environment)

/-- What loading yields: warnings, and the settings or why there are none. -/
structure Loading where
  warnings : List SettingsWarning := []
  answer : Except Failure (Settings × Environment)

/-- The settings of a file, as an interpreter makes it a document, and of the environment. -/
def loadWith (read : Yaml.Interpreter) (d : Disk) (path : Option Path)
    (get : Environment.Variables) : Loading :=
  match (locate d path).bind (bagIn read d) with
  | .error f => ⟨[], .error f⟩
  | .ok bag =>
    match SettingsWarning.all bag with
    | .error fault => ⟨[], .error (.unprintable fault)⟩
    | .ok warnings => ⟨warnings, (combine bag get).mapError .settings⟩

/-- The settings of a file and of the environment. -/
def load (d : Disk) (path : Option Path) (get : Environment.Variables) : Loading :=
  loadWith Yaml.interpret d path get

theorem databaseUrl_overruled {s : Settings} {e : Environment} {url : String}
    (h : Text.given e.databaseUrl = some url) :
    (s.overruled e).storage.databaseUrl = some url := by
  simp [overruled, h]

end Courier.Settings
