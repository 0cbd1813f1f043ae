/-!
# Status and priority

A record starts out pending. Its one delivery attempt makes it sent or failed, and a sent record
may later be confirmed as delivered; no other change is allowed (`Status.mayBecome`).
-/

namespace Courier

/-- How far a delivery attempt has come. -/
inductive Status where
  | pending
  | sent
  | delivered
  | failed
deriving DecidableEq, Repr, Inhabited

namespace Status

/-- The name of a status. -/
def name : Status → String
  | pending => "pending"
  | sent => "sent"
  | delivered => "delivered"
  | failed => "failed"

/-- Every status, in the order in which they are listed to users. -/
def all : List Status := [pending, sent, delivered, failed]

/-- The status of a name. -/
def ofName? (s : String) : Option Status := all.find? fun status => status.name == s

/-- The changes that are allowed. -/
def mayBecome : Status → Status → Bool
  | pending, sent => true
  | pending, failed => true
  | sent, delivered => true
  | _, _ => false

/-- Whether the transport has taken a record over. -/
def isHandedOver : Status → Bool
  | sent => true
  | delivered => true
  | _ => false

@[simp] theorem ofName?_name (s : Status) : ofName? s.name = some s := by
  cases s <;> rfl

theorem mayBecome_iff {a b : Status} : a.mayBecome b = true ↔
    (a = pending ∧ b = sent) ∨ (a = pending ∧ b = failed) ∨ (a = sent ∧ b = delivered) := by
  cases a <;> cases b <;> simp [mayBecome]

end Status

/-- How urgent a notification is. -/
inductive Priority where
  | low
  | medium
  | high
  | urgent
deriving DecidableEq, Repr, Inhabited

namespace Priority

/-- The name of a priority. -/
def name : Priority → String
  | low => "low"
  | medium => "medium"
  | high => "high"
  | urgent => "urgent"

/-- Every priority, in the order in which they are listed to users. -/
def all : List Priority := [low, medium, high, urgent]

/-- The priority of a name. -/
def ofName? (s : String) : Option Priority := all.find? fun priority => priority.name == s

@[simp] theorem ofName?_name (p : Priority) : ofName? p.name = some p := by
  cases p <;> rfl

end Priority

end Courier
