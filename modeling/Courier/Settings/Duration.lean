import Courier.Text.Blank
import Courier.Text.Digit
import Courier.Value.Text

/-!
# Durations

A duration is written with unit letters in descending order, as in `1h30m`, or in the form that
begins with a `P`, as in `PT1H30M`. Blanks and case do not matter, and neither does the script of
the digits. A duration is never zero.

`Duration.parts?` finds the four components and `Duration.seconds` adds them up.
-/

namespace Courier.Duration

open Courier.Text

/-- Why a text is no duration. -/
inductive Fault where
  | malformed (text : String)
  | zero (text : String)
  /-- A component has more digits than an integer may be read from. -/
  | tooManyDigits (count : Nat)
deriving DecidableEq, Repr

/-- The refusal of an integer with too many digits. -/
def digitMessage (count : Nat) : String :=
  "Exceeds the limit (4300 digits) for integer string conversion: value has " ++
    Value.natText count ++ " digits; use sys.set_int_max_str_digits() to increase the limit"

/-- The name of a fault. -/
def Fault.label : Fault → String
  | malformed _ | zero _ => "DurationParseError"
  | tooManyDigits _ => "ValueError"

/-- What a caller is told. -/
def Fault.message : Fault → String
  | malformed text =>
    "Invalid duration '" ++ text ++ "'. Expected a value like '90s', '5m', '1h30m' or 'PT5M'"
  | zero text => "Duration cannot be zero: '" ++ text ++ "'"
  | tooManyDigits count => digitMessage count

/-- The digits of a component, if the text begins with one of this unit, and the text after it. -/
def component (unit : Char) (cs : List Char) : List Char × List Char :=
  match cs.takeWhile isDigit, cs.dropWhile isDigit with
  | d :: digits, c :: rest => if c == unit then (d :: digits, rest) else ([], cs)
  | _, _ => ([], cs)

/-- The digits of components with the given units, an empty run where a component is absent, and
the text after them. -/
def components : List Char → List Char → List (List Char) × List Char
  | [], cs => ([], cs)
  | unit :: units, cs =>
    let (digits, rest) := component unit cs
    let (more, rest) := components units rest
    (digits :: more, rest)

/-- The digits of days, hours, minutes and seconds in a text without blanks and capitals. -/
def parts? (cs : List Char) : Option (List (List Char)) :=
  match cs with
  | [] => none
  | 'p' :: rest =>
    let (days, rest) := components ['d'] rest
    match rest with
    | [] => some (days ++ [[], [], []])
    | 't' :: rest =>
      let (times, rest) := components ['h', 'm', 's'] rest
      if rest.isEmpty then some (days ++ times) else none
    | _ => none
  | cs =>
    let (all, rest) := components ['d', 'h', 'm', 's'] cs
    if rest.isEmpty then some all else none

/-- The seconds in a unit of each component. -/
def weights : List Nat := [86400, 3600, 60, 1]

/-- The seconds that components add up to. -/
def total (parts : List (List Char)) : Nat :=
  (parts.zip weights).foldr (fun p n => digitsValue p.1 * p.2 + n) 0

/-- A text without blanks and capitals. -/
def normal (s : String) : List Char := (withoutBlanks s).map Char.toLower

/-- The whole seconds of a duration. -/
def seconds (s : String) : Except Fault Nat :=
  match parts? (normal s) with
  | none => .error (.malformed s)
  | some parts =>
    match parts.find? fun p => digitLimit < p.length with
    | some long => .error (.tooManyDigits long.length)
    | none => if total parts = 0 then .error (.zero s) else .ok (total parts)

theorem seconds_pos {s : String} {n : Nat} (h : seconds s = .ok n) : 0 < n := by
  unfold seconds at h
  split at h
  · simp at h
  · split at h
    · simp at h
    · split at h
      · simp at h
      · simp only [Except.ok.injEq] at h
        omega

end Courier.Duration
