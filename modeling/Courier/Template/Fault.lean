import Courier.Disk.Fault
import Courier.Settings.Report

/-!
# Why templates cannot be loaded

A file with templates may be missing or unreadable, it may not be written in YAML, it may lack the
list of templates, or templates in the list may be unusable. Every unusable template is named.
-/

namespace Courier.Template

/-- Why templates cannot be loaded. -/
inductive LoadFault where
  | missing (path : Path)
  | unreadable (path : Path) (fault : Disk.Fault)
  | malformed (source : String) (reason : String)
  | noList (source : String)
  | unusable (source : String) (problems : List String)
deriving Repr

namespace LoadFault

/-- The name of every such fault. -/
def label : String := "TemplateLoadError"

/-- What a caller is told. -/
def message : LoadFault → String
  | missing path => "Template file not found: " ++ path.text
  | unreadable path fault =>
    "Failed to read template file " ++ path.text ++ ": " ++ fault.message path
  | malformed source reason => "Failed to parse YAML in " ++ source ++ ": " ++ reason
  | noList source => source ++ " must contain a top-level 'templates' list"
  | unusable source problems => Report.listing ("Invalid templates in " ++ source) problems

end LoadFault

end Courier.Template
