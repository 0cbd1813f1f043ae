import Courier.Record.Transition
import Mathlib.Logic.Relation

/-!
# The life of a record

A record moves along the allowed changes of status and keeps what it was made with, but for objects
in its metadata, which are unfolded (`Record.Later`). A failed or a delivered record has reached the
end of its life (`Status.eq_of_leads`): whatever comes later, its status is the one it has.
-/

namespace Courier

namespace Status

/-- One status comes before another on a path of allowed changes. -/
def Leads : Status → Status → Prop := Relation.ReflTransGen fun a b => a.mayBecome b = true

/-- Nothing follows a failure or a delivery. -/
theorem not_mayBecome {a b : Status} (h : a = failed ∨ a = delivered) :
    a.mayBecome b = false := by
  rcases h with rfl | rfl <;> cases b <;> rfl

theorem eq_of_leads {a b : Status} (h : a = failed ∨ a = delivered) (l : a.Leads b) : b = a := by
  induction l with
  | refl => rfl
  | tail _ hstep ih =>
    subst ih
    rw [not_mayBecome h] at hstep
    cases hstep

end Status

namespace Record

/-- A record at a later moment of its life: it has moved on, and keeps what it was made with. -/
structure Later (r r' : Record) : Prop where
  status : r.status.Leads r'.status
  id : r'.id = r.id
  recipient : r'.recipient = r.recipient
  address : r'.address = r.address
  subject : r'.subject = r.subject
  htmlBody : r'.htmlBody = r.htmlBody
  textBody : r'.textBody = r.textBody
  eventType : r'.eventType = r.eventType
  priority : r'.priority = r.priority
  createdAt : r'.createdAt = r.createdAt
  /-- Metadata changes in nothing but objects, and these are unfolded. -/
  metadata : r'.metadata = r.metadata ∨ r.HoldsObject ∧ r'.metadata = r.unfolded.metadata

namespace Later

variable {r s t : Record}

theorem refl (r : Record) : r.Later r :=
  ⟨.refl, rfl, rfl, rfl, rfl, rfl, rfl, rfl, rfl, rfl, .inl rfl⟩

theorem unfolded_congr (same : s.metadata = r.metadata) :
    s.unfolded.metadata = r.unfolded.metadata := by
  rw [Record.unfolded, Record.unfolded, same]

theorem trans (h : r.Later s) (g : s.Later t) : r.Later t where
  status := h.status.trans g.status
  id := g.id.trans h.id
  recipient := g.recipient.trans h.recipient
  address := g.address.trans h.address
  subject := g.subject.trans h.subject
  htmlBody := g.htmlBody.trans h.htmlBody
  textBody := g.textBody.trans h.textBody
  eventType := g.eventType.trans h.eventType
  priority := g.priority.trans h.priority
  createdAt := g.createdAt.trans h.createdAt
  metadata := by
    rcases h.metadata with same | ⟨holds, unfolded⟩
    · rcases g.metadata with same' | ⟨⟨m, hm, hobject⟩, unfolded'⟩
      · exact .inl (same'.trans same)
      · exact .inr ⟨⟨m, same ▸ hm, hobject⟩, unfolded'.trans (unfolded_congr same)⟩
    · refine .inr ⟨holds, ?_⟩
      rcases g.metadata with same' | ⟨-, unfolded'⟩
      · exact same'.trans unfolded
      · rw [unfolded', unfolded_congr unfolded, Record.unfolded_unfolded]

/-- Without an object in it metadata does not change. -/
theorem metadata_eq (h : r.Later s) (plain : ¬r.HoldsObject) : s.metadata = r.metadata :=
  h.metadata.resolve_right fun ⟨holds, _⟩ => plain holds

end Later

/-- What a move makes of a record. -/
theorem after_eq_moved {r r' : Record} {m : Move} (h : r.after m = .ok r') :
    ∃ status a, Status.ofName? m.status = some status ∧ m.time.toInstant? = some a ∧
      r.status.mayBecome status = true ∧ r' = r.moved status a m.error := by
  obtain ⟨status, a, hs, ha, hm⟩ := after_ok_iff.mp h
  unfold move? at hm
  split at hm
  · rename_i allowed
    exact ⟨status, a, hs, ha, allowed, (Option.some.inj hm).symm⟩
  · cases hm

theorem later_of_after {r r' : Record} {m : Move} (h : r.after m = .ok r') : r.Later r' := by
  obtain ⟨status, a, _, _, allowed, rfl⟩ := after_eq_moved h
  refine ⟨.single allowed, rfl, rfl, rfl, rfl, rfl, rfl, rfl, rfl, rfl, ?_⟩
  by_cases holds : r.HoldsObject
  · exact .inr ⟨holds, rfl⟩
  · have kept : r.unfolded.metadata = r.metadata := by rw [unfolded_eq_self holds]
    exact .inl kept

/-! ## A new attempt -/

/-- The record of an attempt that was just made. -/
def fresh (id recipient eventType : String) (now : Instant) : Record where
  id := id
  recipient := recipient
  address := recipient
  subject := eventType
  eventType := eventType
  priority := Event.priority eventType
  createdAt := now
  updatedAt := now

theorem consistent_fresh (id recipient eventType : String) (now : Instant) :
    (fresh id recipient eventType now).Consistent :=
  ⟨Nat.le_refl _, rfl, rfl, rfl⟩

/-- Nine in the morning of 10 March 2025, a time to make attempts at. -/
def morning : Instant := ⟨63877194000000000, by decide⟩

end Record

end Courier
