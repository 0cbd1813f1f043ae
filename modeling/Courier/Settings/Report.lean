import Courier.Value.Text

/-!
# Reports on settings

Settings that cannot be used are reported in one go: a heading, every problem with its number, and
hints on what to do.
-/

namespace Courier

/-- What is wrong with settings. -/
structure Report where
  heading : String
  problems : List String := []
  hints : List String := []
deriving DecidableEq, Repr, Inhabited

namespace Report

/-- Lines with their numbers, the first of which is `start`. -/
def numbered (start : Nat) : List String → List String
  | [] => []
  | line :: rest => ("  " ++ Value.natText start ++ ". " ++ line) :: numbered (start + 1) rest

/-- A headed list, or nothing if the list is empty. -/
def titled (title : String) (lines : List String) : List String :=
  if lines.isEmpty then [] else title :: lines

/-- The report as a text. -/
def text (r : Report) : String :=
  "\n".intercalate
    ([r.heading] ++ titled "\nValidation Errors:" (numbered 1 r.problems) ++
      titled "\nSuggestions:" (r.hints.map ("  - " ++ ·)))

/-- A heading above problems with their numbers. -/
def listing (heading : String) (problems : List String) : String :=
  "\n".intercalate (heading :: numbered 1 problems)

end Report

end Courier
