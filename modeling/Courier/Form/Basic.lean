import Courier.Form.Time

/-!
# Forms

A form is a bag whose text keys name the fields; other keys are ignored. `required` and `field`
read one field each and report its issues under its name. `items` and `entries` check the parts of
a collection.
-/

namespace Courier.Form

open Checked

/-- A value that is a form, called `name` in messages. -/
def ofValue (name : String) : Value → Checked Bag
  | .dict bag => ok bag
  | _ => problem (.notAForm name)

/-- A field that has to be there. -/
def required {α : Type} (bag : Bag) (name : String) (check : Value → Checked α) : Checked α :=
  match bag.getText? name with
  | some v => (check v).within name
  | none => wrong [⟨[name], .missing⟩]

/-- A field with a value to use where it is absent. -/
def field {α : Type} (bag : Bag) (name : String) (default : α) (check : Value → Checked α) :
    Checked α :=
  match bag.getText? name with
  | some v => (check v).within name
  | none => ok default

/-- The results of a check on several items, each with its position. -/
def itemsFrom {α : Type} (check : Value → Checked α) : Nat → List Value → List (Checked α)
  | _, [] => []
  | i, v :: rest => (check v).within (Value.natText i) :: itemsFrom check (i + 1) rest

/-- A list of items. -/
def items {α : Type} (check : Value → Checked α) : Value → Checked (List α)
  | .list xs => all (itemsFrom check 0 xs)
  | .tuple xs => all (itemsFrom check 0 xs)
  | .set xs => all (itemsFrom check 0 xs)
  | _ => problem .notAList

/-- The step by which a key is named. -/
def keyStep (key : Value) : String :=
  match key with
  | .text s => s
  | .bool b => if b then "1" else "0"
  | .int n => Value.intText n
  | v => match v.quoted? with
    | .ok s => s
    | .error _ => ""

/-- A bag with texts for keys. -/
def entries {α : Type} (check : Value → Checked α) : Value → Checked (List (String × α))
  | .dict bag => all (bag.map fun e =>
    Prod.mk <$> ((text e.1).within "[key]").within (keyStep e.1) <*>
      (check e.2).within (keyStep e.1))
  | _ => problem .notABag

end Courier.Form
