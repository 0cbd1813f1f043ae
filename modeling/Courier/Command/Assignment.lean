import Courier.Failure
import Courier.Text.Blank
import Courier.Text.Cut

/-!
# Assignments

An argument `name=value` gives a placeholder or a piece of metadata its value. The first equals
sign separates the two, blanks around the name do not count, and the value is kept as it was typed.
-/

namespace Courier.Assignment

/-- The name and the value of an argument, if the name is not empty. -/
def read? (argument : String) : Option (String × String) :=
  match Text.cutFirst ['='] argument.toList with
  | none => none
  | some (name, value) =>
    let name := Text.trim (String.ofList name)
    if name.isEmpty then none else some (name, String.ofList value)

/-- A bag with the assignments of arguments added to it. -/
def addAll (option : String) : Bag → List String → Except Failure Bag
  | bag, [] => .ok bag
  | bag, argument :: rest =>
    match read? argument with
    | some (name, value) => addAll option (bag.put (.text name) (.text value)) rest
    | none => .error (.assignment option argument)

/-- The bag that the arguments given to an option assign. The last of several values for a name
wins. -/
def bag (option : String) (arguments : List String) : Except Failure Bag :=
  addAll option [] arguments

end Courier.Assignment
