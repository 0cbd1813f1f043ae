import Courier.Log.Entry

/-!
# Scopes

Fields pushed onto a scope stay in force until that push is undone. Undoing a push restores the
fields that were in force just before it, whatever was pushed or cleared in between. Absent values
are not pushed.

A program undoes a push of its own by what the push gave it back. A block is a push with a
beginning and an end: it keeps for itself what its end is to restore. It can keep only one thing, so
that a block that begins again before its end forgets what it kept first.

A `Scope` holds the fields in force, what the program's own pushes restore and what the blocks keep;
`Scope.run` follows what a program does to it.
-/

namespace Courier.Log

/-- Fields in force, those that the program's own pushes restore, latest first, and those that each
block keeps for its end. -/
structure Scope where
  fields : Fields := []
  pending : List Fields := []
  kept : Nat → Option Fields := fun _ => none
deriving Inhabited

namespace Scope

/-- Whether a value is absent. -/
def isAbsent : Value → Bool
  | .null => true
  | _ => false

/-- The fields with those pushed over them. -/
def extended (fields more : Fields) : Fields := fields.merge (more.filter fun f => !isAbsent f.2)

/-- Put fields in force. -/
def push (scope : Scope) (more : Fields) : Scope :=
  { scope with fields := extended scope.fields more, pending := scope.fields :: scope.pending }

/-- Undo the latest push that is still open. -/
def pop (scope : Scope) : Scope :=
  match scope.pending with
  | [] => scope
  | before :: earlier => { scope with fields := before, pending := earlier }

/-- What blocks keep, with one of them keeping something else. -/
def keeping (kept : Nat → Option Fields) (block : Nat) (fields : Option Fields) :
    Nat → Option Fields := fun other => if other = block then fields else kept other

/-- Begin a block. What it kept until now is forgotten. -/
def enter (scope : Scope) (block : Nat) (more : Fields) : Scope :=
  { scope with
    fields := extended scope.fields more
    kept := keeping scope.kept block (some scope.fields) }

/-- End a block. One that keeps nothing changes nothing. -/
def leave (scope : Scope) (block : Nat) : Scope :=
  match scope.kept block with
  | none => scope
  | some before => { scope with fields := before, kept := keeping scope.kept block none }

/-- Drop every field; open pushes and blocks stay open. -/
def clear (scope : Scope) : Scope := { scope with fields := [] }

end Scope

/-! ## Programs -/

/-- How a scope is opened and closed. -/
inductive Opening where
  /-- By a push, and by undoing it. -/
  | push
  /-- By the beginning of a block, and by its end. -/
  | block (block : Nat)
deriving DecidableEq, Repr

/-- What a program does to the fields in force. -/
inductive Act where
  | opening (how : Opening) (more : Fields)
  | closing (how : Opening)
  | clear
deriving Repr

namespace Scope

/-- Open a scope. -/
def opened (scope : Scope) : Opening → Fields → Scope
  | .push, more => scope.push more
  | .block block, more => scope.enter block more

/-- Close a scope. -/
def closed (scope : Scope) : Opening → Scope
  | .push => scope.pop
  | .block block => scope.leave block

/-- The scope after an act. -/
def after (scope : Scope) : Act → Scope
  | .opening how more => scope.opened how more
  | .closing how => scope.closed how
  | .clear => scope.clear

/-- The scope after several acts. -/
def run (scope : Scope) (acts : List Act) : Scope := acts.foldl after scope

/-- Whether a way to open a scope is free: a block that keeps something has begun already. -/
def IsFree (scope : Scope) : Opening → Prop
  | .push => True
  | .block block => scope.kept block = none

/-- Whether there is something for the closing of a scope to restore. -/
def Restores (scope : Scope) : Opening → Prop
  | .push => scope.pending ≠ []
  | .block block => scope.kept block ≠ none

theorem closed_opened {scope : Scope} {how : Opening} (free : scope.IsFree how) (more : Fields) :
    (scope.opened how more).closed how = scope := by
  cases how with
  | push => rfl
  | block block =>
    obtain ⟨fields, pending, kept⟩ := scope
    have same : keeping (keeping kept block (some fields)) block none = kept := by
      funext other
      by_cases named : other = block
      · simpa [keeping, named] using free.symm
      · simp [keeping, named]
    simp only [opened, closed, enter, leave, same]
    simp [keeping]

theorem restores_opened (scope : Scope) (how : Opening) (more : Fields) :
    (scope.opened how more).Restores how := by
  cases how <;> simp [opened, Restores, push, enter, keeping]

/-- What is restored does not depend on the fields that are in force by then. -/
theorem closed_clear {scope : Scope} {how : Opening} (h : scope.Restores how) :
    scope.clear.closed how = scope.closed how := by
  obtain ⟨fields, pending, kept⟩ := scope
  cases how with
  | push => cases pending with
    | nil => exact absurd rfl h
    | cons before earlier => rfl
  | block block => cases hkept : kept block with
    | none => exact absurd hkept h
    | some before => simp [closed, leave, clear, hkept]

end Scope

end Courier.Log
