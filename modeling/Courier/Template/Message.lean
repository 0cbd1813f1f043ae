import Courier.Failure
import Courier.Template.Basic
import Courier.Template.Render

/-!
# Messages

A message is a template with all three of its texts rendered from one bag. Names that the template
expects and the bag does not have are no failure, but the log mentions them.
-/

namespace Courier

/-- The rendered texts of a template. -/
structure Message where
  subject : String
  htmlBody : String
  textBody : String
deriving DecidableEq, Repr, Inhabited

namespace Message

/-- The place that speaks for rendering. -/
def source : Log.Source := ⟨"notify_engine.templates.renderer", none⟩

/-- The texts of a template rendered from a bag. -/
def texts (t : Template) (bag : Bag) : Except TextFault Message := do
  let subject ← Template.render? t.subject bag
  let htmlBody ← Template.render? t.htmlBody bag
  let textBody ← Template.render? t.textBody bag
  return ⟨subject, htmlBody, textBody⟩

/-- The names that a template expects and a bag does not have. -/
def missing (t : Template) (bag : Bag) : List String :=
  t.expected.filter fun name => !bag.has (.text name)

/-- The entry about missing names. -/
def missingEntry (t : Template) (names : List String) : Log.Entry :=
  source.entry .debug
    ("Template " ++ t.id ++ " rendered without variables: " ++ ", ".intercalate names)
    [("template_id", .text t.id), ("missing_variables", .list (names.map .text))]

/-- The message of a template and a bag. -/
def render (t : Template) (bag : Bag) : Reply Message :=
  match texts t bag with
  | .error fault =>
    let failure := Failure.rendering t.id fault
    ⟨.error failure,
      [{ source.entry .error failure.text with failure := some failure.trace }]⟩
  | .ok message =>
    ⟨.ok message,
      if (missing t bag).isEmpty then [] else [missingEntry t (missing t bag)]⟩

end Message

end Courier
