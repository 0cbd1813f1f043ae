import Courier.Failure
import Courier.Record.Basic

/-!
# Moving a record forward

A record moves to a new status at a moment, which is never taken to be earlier than the record's
creation. The moment becomes the time of sending or delivery, as the status demands; a failed record
gets an error text, a general one where none is given. The new record is made of what the old one is
written out as, so that objects in its metadata become bags of their fields.

Whatever is consistent stays consistent (`Record.Consistent.moved`), and `Record.move?` refuses
exactly the steps that `Status.mayBecome` does not allow.
-/

namespace Courier.Record

/-- The error of a failed record of which nobody said what went wrong. -/
def unknownError : String := "unknown transport error"

/-- The error text that a record keeps. -/
def errorText (error : Option String) : String :=
  match error with
  | none => unknownError
  | some s => if s.isEmpty then unknownError else s

/-- The record in a new status. -/
def moved (r : Record) (status : Status) (time : Instant) (error : Option String) : Record :=
  let moment := Instant.latest time r.createdAt
  { r.unfolded with
    status := status
    updatedAt := moment
    sentAt := if status = .sent then some moment else r.sentAt
    deliveredAt := if status = .delivered then some moment else r.deliveredAt
    error := if status = .failed then some (errorText error) else r.error }

/-- The record in a new status, if it may take it. -/
def move? (r : Record) (status : Status) (time : Instant) (error : Option String) :
    Option Record :=
  if r.status.mayBecome status then some (r.moved status time error) else none

theorem Consistent.moved {r : Record} {status : Status} {time : Instant} {error : Option String}
    (c : r.Consistent) (h : r.status.mayBecome status = true) :
    (r.moved status time error).Consistent := by
  have sent := c.sentAt_iff
  have err := c.error_iff
  have delivered := c.deliveredAt_iff
  refine ⟨Instant.le_latest_right time r.createdAt, ?_, ?_, ?_⟩ <;>
    rcases Status.mayBecome_iff.mp h with ⟨h₁, rfl⟩ | ⟨h₁, rfl⟩ | ⟨h₁, rfl⟩ <;>
      simp_all [Record.moved, Status.isHandedOver]

theorem consistent_of_move? {r r' : Record} {status : Status} {time : Instant}
    {error : Option String} (c : r.Consistent) (h : r.move? status time error = some r') :
    r'.Consistent := by
  unfold move? at h
  split at h
  · rename_i allowed
    obtain rfl := Option.some.inj h
    exact c.moved allowed
  · simp at h

/-- A request to move a record: the name of the status, the moment on some clock, and the error. -/
structure Move where
  status : String
  time : Reading
  error : Option String := none

/-- The record after a request to move it. The name of the status is looked at first, then the step
and last the moment. -/
def after (r : Record) (m : Move) : Except Failure Record :=
  match Status.ofName? m.status with
  | none => .error (.unknownStatus m.status)
  | some status =>
    if r.status.mayBecome status then
      match m.time.toInstant? with
      | none => .error .beyondCalendar
      | some a => .ok (r.moved status a m.error)
    else .error (.forbiddenMove r.id r.status status)

theorem after_ok_iff {r r' : Record} {m : Move} :
    r.after m = .ok r' ↔ ∃ status a, Status.ofName? m.status = some status ∧
      m.time.toInstant? = some a ∧ r.move? status a m.error = some r' := by
  unfold after move?
  constructor
  · intro h
    split at h
    · simp at h
    · rename_i status hs
      split at h
      · rename_i allowed
        split at h
        · simp at h
        · rename_i a ha
          exact ⟨status, a, hs, ha, by simpa [allowed] using h⟩
      · simp at h
  · rintro ⟨status, a, hs, ha, hm⟩
    split at hm
    · rename_i allowed
      simp [hs, ha, allowed, Option.some.inj hm]
    · simp at hm

theorem id_of_after {r r' : Record} {m : Move} (h : r.after m = .ok r') : r'.id = r.id := by
  obtain ⟨status, a, _, _, hm⟩ := after_ok_iff.mp h
  unfold move? at hm
  split at hm
  · obtain rfl := Option.some.inj hm
    rfl
  · simp at hm

theorem Consistent.after {r r' : Record} {m : Move} (c : r.Consistent) (h : r.after m = .ok r') :
    r'.Consistent := by
  obtain ⟨status, a, _, _, hm⟩ := after_ok_iff.mp h
  exact consistent_of_move? c hm

end Courier.Record
