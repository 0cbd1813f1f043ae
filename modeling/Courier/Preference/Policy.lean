import Courier.Preference.Basic

/-!
# The delivery policy

A notification is sent unless its recipient has objected: by the main switch, or by the switch of
its event type. A recipient without preferences has not objected, and neither has one who left a
switch alone; event types without a switch are never barred.
-/

namespace Courier

/-- Whether a notification may be sent, or which objection bars it. -/
inductive Decision where
  | allowed
  | disabled
  | typeDisabled
deriving DecidableEq, Repr

namespace Decision

/-- Whether nothing bars the notification. -/
def isAllowed : Decision → Bool
  | allowed => true
  | _ => false

/-- What a caller is told of an objection. -/
def reason? : Decision → Option String
  | allowed => none
  | disabled => some "notifications disabled"
  | typeDisabled => some "type disabled by preference"

end Decision

namespace Preference

/-- Whether the switch of an event type is off. -/
def bars (p : Preference) (eventType : String) : Bool :=
  match Event.switch? eventType with
  | some name => p.switch? name == some false
  | none => false

/-- The decision on an event type under preferences, which may be missing. -/
def decision (p : Option Preference) (eventType : String) : Decision :=
  match p with
  | none => .allowed
  | some p =>
    if !p.enabled then .disabled else if p.bars eventType then .typeDisabled else .allowed

theorem decision_eq_allowed_iff {p : Preference} {eventType : String} :
    decision (some p) eventType = .allowed ↔ p.enabled = true ∧ p.bars eventType = false := by
  by_cases h : p.enabled <;> by_cases g : p.bars eventType <;> simp [decision, h, g]

end Preference

end Courier
