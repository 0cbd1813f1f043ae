import Courier.Template.Section
import Courier.Text.Cut
import Courier.Value.Text

/-!
# Rendering

A template is rendered in two passes. First every placeholder whose name is a key of the bag gives
way to the text of the value, one key after the other, over the whole template. Then the sections
are resolved. So a placeholder within a section is filled before the section is kept or dropped,
and a placeholder without a value stays as it is.

Every value of the bag needs a text, whether the template uses it or not.
-/

namespace Courier.Template

open Courier.Text

/-- The placeholders of a bag with the texts that replace them. -/
def fillings? : Bag → Except TextFault (List (List Char × List Char))
  | [] => .ok []
  | (key, v) :: rest => do
    let name ← key.text?
    let new ← v.written?
    let more ← fillings? rest
    return (tag name.toList, new.toList) :: more

/-- A text with its placeholders replaced in turn. -/
def fill (fillings : List (List Char × List Char)) (text : List Char) : List Char :=
  fillings.foldl (fun t f => replaceAll f.1 f.2 t) text

/-- Whether the section of a name is kept. -/
def keeps (bag : Bag) (name : List Char) : Bool :=
  match bag.getText? (String.ofList name) with
  | some v => v.isTruthy
  | none => false

/-- A template rendered with the values of a bag. -/
def render? (template : String) (bag : Bag) : Except TextFault String := do
  let fillings ← fillings? bag
  return String.ofList (resolve (keeps bag) (fill fillings template.toList))

@[simp] theorem fill_nil (text : List Char) : fill [] text = text := rfl

@[simp] theorem fill_cons (f : List Char × List Char) (fillings : List (List Char × List Char))
    (text : List Char) : fill (f :: fillings) text = fill fillings (replaceAll f.1 f.2 text) := rfl

end Courier.Template
