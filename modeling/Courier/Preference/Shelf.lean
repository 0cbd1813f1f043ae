import Courier.Preference.Basic

/-!
# Kept preferences

At most one set of preferences is kept for a recipient. Keeping preferences replaces what was kept
for that recipient before, in its old place, and touches nobody else's.
-/

namespace Courier

/-- Preferences in the order in which their recipients were first seen. -/
abbrev Shelf := List Preference

namespace Shelf

/-- What is kept for a recipient. -/
def get? (shelf : Shelf) (recipient : String) : Option Preference :=
  shelf.find? fun p => p.recipient == recipient

/-- The shelf with preferences kept. -/
def put : Shelf → Preference → Shelf
  | [], p => [p]
  | q :: rest, p => if q.recipient == p.recipient then p :: rest else q :: put rest p

@[simp] theorem get?_nil (recipient : String) : get? [] recipient = none := rfl

theorem get?_put_self (shelf : Shelf) (p : Preference) :
    (shelf.put p).get? p.recipient = some p := by
  induction shelf with
  | nil => simp [put, get?]
  | cons q rest ih =>
    by_cases h : q.recipient = p.recipient
    · simp [put, h, get?]
    · simpa [put, h, get?] using ih

theorem get?_put_of_ne (shelf : Shelf) (p : Preference) {recipient : String}
    (hne : p.recipient ≠ recipient) : (shelf.put p).get? recipient = shelf.get? recipient := by
  induction shelf with
  | nil => simp [put, get?, hne]
  | cons q rest ih =>
    by_cases h : q.recipient = p.recipient
    · have hq : q.recipient ≠ recipient := h ▸ hne
      simp [put, h, get?, hne]
    · by_cases hq : q.recipient = recipient
      · have hr : recipient ≠ p.recipient := fun e => hne e.symm
        simp [put, get?, hq, hr]
      · simpa [put, h, get?, hq] using ih

end Shelf

end Courier
