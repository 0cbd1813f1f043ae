import Courier.Form.Issue

/-!
# Checked values

Checking a form yields its content or every issue there is. `Checked` is the type of such results;
combining two of them with `<*>` keeps the issues of both, in order, so one pass over a form reports
all that is wrong with it. `Checked.andThen` makes a check depend on the result of another.
-/

namespace Courier

/-- A checked value, or all that is wrong with it. -/
inductive Checked (α : Type) where
  | ok (a : α)
  | wrong (issues : List Issue)
deriving Repr

namespace Checked

variable {α β : Type}

/-- The result of a function on checked values. -/
def map (f : α → β) : Checked α → Checked β
  | ok a => ok (f a)
  | wrong issues => wrong issues

/-- A checked function applied to a checked value; the issues of both are kept. -/
def seq : Checked (α → β) → Checked α → Checked β
  | ok f, ok a => ok (f a)
  | ok _, wrong issues => wrong issues
  | wrong issues, ok _ => wrong issues
  | wrong issues, wrong more => wrong (issues ++ more)

instance : Applicative Checked where
  map := map
  pure := ok
  seq f a := seq f (a ())

/-- A check of the result of a check. -/
def andThen (c : Checked α) (next : α → Checked β) : Checked β :=
  match c with
  | ok a => next a
  | wrong issues => wrong issues

/-- One issue with the value as a whole. -/
def problem (p : Problem) : Checked α := wrong [⟨[], p⟩]

/-- The result as it looks from a form around this value. -/
def within (step : String) : Checked α → Checked α
  | ok a => ok a
  | wrong issues => wrong (issues.map (Issue.within step))

/-- Several checks, the issues of all of them kept. -/
def all : List (Checked α) → Checked (List α)
  | [] => ok []
  | c :: cs => seq (map List.cons c) (all cs)

/-- The result, if there is one. -/
def toOption : Checked α → Option α
  | ok a => some a
  | wrong _ => none

@[simp] theorem map_ok (f : α → β) (a : α) : map f (ok a) = ok (f a) := rfl

@[simp] theorem seq_ok (f : α → β) (a : α) : seq (ok f) (ok a) = ok (f a) := rfl

@[simp] theorem andThen_ok (a : α) (next : α → Checked β) : andThen (ok a) next = next a := rfl

@[simp] theorem within_ok (step : String) (a : α) : within step (ok a) = ok a := rfl

theorem seq_eq_ok_iff {f : Checked (α → β)} {c : Checked α} {b : β} :
    seq f c = ok b ↔ ∃ g a, f = ok g ∧ c = ok a ∧ g a = b := by
  cases f <;> cases c <;> simp [seq]

theorem map_eq_ok_iff {f : α → β} {c : Checked α} {b : β} :
    map f c = ok b ↔ ∃ a, c = ok a ∧ f a = b := by
  cases c <;> simp [map]

theorem within_eq_ok_iff {step : String} {c : Checked α} {a : α} :
    c.within step = ok a ↔ c = ok a := by
  cases c <;> simp [within]

theorem andThen_eq_ok_iff {c : Checked α} {next : α → Checked β} {b : β} :
    andThen c next = ok b ↔ ∃ a, c = ok a ∧ next a = ok b := by
  cases c <;> simp [andThen]

end Checked

end Courier
