import Courier.Form.Basic
import Courier.Json.Basic

/-!
# Templates

A template belongs to an event type and holds the texts of a message with placeholders and
sections. Its identifier and event type carry no blanks at either end and are never empty.
-/

namespace Courier

/-- The texts of a message for one event type. -/
structure Template where
  id : String
  name : String := ""
  eventType : String
  subject : String
  htmlBody : String := ""
  textBody : String := ""
  /-- The names that the texts expect to find in a bag. -/
  expected : List String := []
  active : Bool := true
deriving DecidableEq, Repr, Inhabited

namespace Template

open Form

/-- An identifier: a text without the blanks at its ends, which must leave something. -/
def identifier (v : Value) : Checked String :=
  (someText v).andThen fun s =>
    if (Text.trim s).isEmpty then .problem .blankIdentifier else .ok (Text.trim s)

/-- The template that a form describes. -/
def ofValue (v : Value) : Checked Template :=
  (Form.ofValue "Template" v).andThen fun form =>
    Template.mk <$> required form "id" identifier <*> field form "name" "" text <*>
      required form "event_type" identifier <*> required form "subject" text <*>
      field form "html_body" "" text <*> field form "text_body" "" text <*>
      field form "variables" [] (items text) <*> field form "active" true boolean

/-- The template as a document. -/
def toJson (t : Template) : Json :=
  .object [("id", .text t.id), ("name", .text t.name), ("event_type", .text t.eventType),
    ("subject", .text t.subject), ("html_body", .text t.htmlBody), ("text_body", .text t.textBody),
    ("variables", .list (t.expected.map .text)), ("active", .bool t.active)]

end Template

end Courier
