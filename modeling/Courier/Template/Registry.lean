import Courier.Log.Entry
import Courier.Template.Basic

/-!
# The registry of templates

Templates are registered all at once, replacing those from before. Of several active templates for
one event type the one registered first is used.
-/

namespace Courier

/-- Registered templates in the order of registration. -/
abbrev Registry := List Template

namespace Registry

/-- The place that speaks for the registry. -/
def source : Log.Source := ⟨"notify_engine.templates.store", some "templates"⟩

/-- The active template for an event type. -/
def find? (registry : Registry) (eventType : String) : Option Template :=
  List.find? (fun t => t.eventType == eventType && t.active) registry

/-- The entry about newly registered templates. -/
def registeredEntry (registry : Registry) : Log.Entry :=
  let active := registry.countP Template.active
  source.entry .info
    ("Registered " ++ Value.natText registry.length ++ " templates (" ++ Value.natText active ++
      " active)")
    [("event", .text "templates.registered"), ("template_count", .int registry.length),
     ("active_count", .int active)]

end Registry

end Courier
