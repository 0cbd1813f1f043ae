import Courier.Disk
import Courier.Template.Registry
import Courier.Yaml.Document

/-!
# Files with templates

A file with templates is a YAML document with a list named `templates`. All templates of the list
have to be usable, and no two of them may have the same identifier; otherwise nothing is loaded and
the fault names every template at fault by its place in the list.

`parseWith` and `loadWith` take any interpreter of YAML texts; `parse` and `load` take that of this
library.
-/

namespace Courier.Template

/-- The place that speaks for loading. -/
def loadSource : Log.Source := ⟨"notify_engine.templates.loader", none⟩

/-- The entry about templates that were loaded. -/
def loadedEntry (count : Nat) (source : String) : Log.Entry :=
  loadSource.entry .debug ("Loaded " ++ Value.natText count ++ " templates from " ++ source)

/-- A place in the list of templates. -/
def entryName (index : Nat) : String := "templates[" ++ Value.natText index ++ "]"

/-- An issue of a template as the fault names it. -/
def entryIssue (index : Nat) (issue : Issue) : String :=
  entryName index ++ " " ++ (if issue.place.isEmpty then "<entry>" else issue.place) ++ ": " ++
    issue.problem.message

/-- A second template with an identifier. -/
def repeatedIssue (index : Nat) (id : String) : String :=
  entryName index ++ ": duplicate template id '" ++ id ++ "'"

/-- The usable templates of a list whose first entry has the place `index`, and what is wrong with
the others; `seen` holds the identifiers of the templates before. -/
def gather (seen : List String) (index : Nat) : List Value → List Template × List String
  | [] => ([], [])
  | v :: rest =>
    match ofValue v with
    | .wrong issues =>
      let (templates, problems) := gather seen (index + 1) rest
      (templates, issues.map (entryIssue index) ++ problems)
    | .ok t =>
      if seen.contains t.id then
        let (templates, problems) := gather seen (index + 1) rest
        (templates, repeatedIssue index t.id :: problems)
      else
        let (templates, problems) := gather (t.id :: seen) (index + 1) rest
        (t :: templates, problems)

/-- The list of templates in a document. -/
def listIn? : Value → Option (List Value)
  | .dict bag => match Bag.getText? bag "templates" with
    | some (.list entries) => some entries
    | _ => none
  | _ => none

/-- The templates of a document that comes from `source`. -/
def ofDocument (source : String) (document : Value) : Except LoadFault (List Template) :=
  match listIn? document with
  | none => .error (.noList source)
  | some entries =>
    match gather [] 0 entries with
    | (templates, []) => .ok templates
    | (_, problem :: more) => .error (.unusable source (problem :: more))

/-- The templates of a text that comes from `source`, as an interpreter makes it a document. -/
def parseWith (read : Yaml.Interpreter) (source text : String) : Reply (List Template) :=
  match read text with
  | .error (.form reason) => .quiet (.error (.templates (.malformed source reason)))
  | .error (.mishap m) => .quiet (.error (.mishap m))
  | .ok document =>
    match ofDocument source document with
    | .error fault => .quiet (.error (.templates fault))
    | .ok templates => ⟨.ok templates, [loadedEntry templates.length source]⟩

/-- The templates of a text that comes from `source`. -/
def parse (source text : String) : Reply (List Template) := parseWith Yaml.interpret source text

/-- The templates of a file, as an interpreter makes it a document. -/
def loadWith (read : Yaml.Interpreter) (d : Disk) (path : Path) : Reply (List Template) :=
  match d.text path with
  | .ok text => parseWith read path.text text
  | .error (.file .missing) => .quiet (.error (.templates (.missing path)))
  | .error (.file .nullByte) => .quiet (.error (.unreachable path .nullByte))
  | .error (.file fault) => .quiet (.error (.templates (.unreadable path fault)))
  | .error (.bytes fault) => .quiet (.error (.undecodable fault))

/-- The templates of a file. -/
def load (d : Disk) (path : Path) : Reply (List Template) := loadWith Yaml.interpret d path

end Courier.Template
