import Courier.Proofs.Record.Life

/-!
# The times of a record

A record has the time of its creation, and later on those of its sending, its delivery and its last
change. From a new attempt on, none of them comes before the creation, and the last change is what
gave the record its status (`Record.Timed`). A moment is not compared with the one before it,
however: a record may be confirmed as delivered at a moment before it was sent
(`Record.ConfirmedEarly`), and this is the only way in which its times leave their order or its last
change goes back.

Main statement: `Record.Timed.after`.
-/

namespace Courier

namespace Status

/-- A sent record can only be delivered. -/
theorem sent_mayBecome_iff {b : Status} : sent.mayBecome b = true ↔ b = delivered := by
  cases b <;> simp [mayBecome]

/-- Only a sent record can be delivered. -/
theorem mayBecome_delivered_iff {a : Status} : a.mayBecome delivered = true ↔ a = sent := by
  cases a <;> simp [mayBecome]

/-- A record that moves is pending or sent. -/
theorem pending_or_sent {a b : Status} (h : a.mayBecome b = true) : a = pending ∨ a = sent := by
  cases a <;> simp_all [mayBecome]

/-- No record becomes pending. -/
theorem ne_pending {a b : Status} (h : a.mayBecome b = true) : b ≠ pending := by
  rintro rfl
  cases a <;> cases h

end Status

namespace Record

/-- The times of a record that are set, from its creation to its last change. -/
def times (r : Record) : List Instant :=
  r.createdAt :: (r.sentAt.toList ++ (r.deliveredAt.toList ++ [r.updatedAt]))

/-- The times of a record are in order. -/
def InOrder (r : Record) : Prop := r.times.Pairwise (· ≤ ·)

/-- The times of a record fit its status, as they do from a new attempt on. -/
structure Timed (r : Record) : Prop where
  consistent : r.Consistent
  created_le : ∀ t ∈ r.times, r.createdAt ≤ t
  pending : r.status = .pending → r.updatedAt = r.createdAt
  sent : r.status = .sent → r.sentAt = some r.updatedAt
  delivered : r.status = .delivered → r.deliveredAt = some r.updatedAt

/-- A request confirms a record as delivered at a moment before it was sent, and it was sent after
its creation. -/
def ConfirmedEarly (r : Record) (m : Move) : Prop :=
  r.status = .sent ∧ Status.ofName? m.status = some .delivered ∧
    ∃ a t, m.time.toInstant? = some a ∧ r.sentAt = some t ∧ a < t ∧ r.createdAt < t

variable {r r' : Record} {m : Move}

/-! ## What the status says of the times -/

namespace Consistent

variable (c : r.Consistent)

include c

theorem sentAt_eq_none (h : r.status.isHandedOver = false) : r.sentAt = none := by
  simpa [h] using c.sentAt_iff

theorem deliveredAt_eq_none (h : r.status ≠ .delivered) : r.deliveredAt = none := by
  simpa [h] using c.deliveredAt_iff

theorem exists_sentAt (h : r.status.isHandedOver = true) : ∃ t, r.sentAt = some t :=
  Option.isSome_iff_exists.mp (c.sentAt_iff.trans h)

end Consistent

/-- A new attempt that was not changed since its creation. -/
theorem timed_of_pending (c : r.Consistent) (pending : r.status = .pending)
    (unchanged : r.updatedAt = r.createdAt) : r.Timed where
  consistent := c
  created_le t ht := by
    have sent : r.sentAt = none := c.sentAt_eq_none (by rw [pending]; rfl)
    have delivered : r.deliveredAt = none := c.deliveredAt_eq_none (by rw [pending]; decide)
    have same : t = r.createdAt := by simpa [times, sent, delivered, unchanged] using ht
    exact Nat.le_of_eq (congrArg Instant.micros same.symm)
  pending _ := unchanged
  sent h := by
    rw [pending] at h
    cases h
  delivered h := by
    rw [pending] at h
    cases h

namespace Timed

/-- The times of a record are in order as long as it was not delivered before it was sent. -/
theorem inOrder_iff (k : r.Timed) :
    r.InOrder ↔ ∀ s ∈ r.sentAt, ∀ d ∈ r.deliveredAt, s ≤ d := by
  have first : r.InOrder ↔
      (r.sentAt.toList ++ (r.deliveredAt.toList ++ [r.updatedAt])).Pairwise (· ≤ ·) :=
    List.pairwise_cons.trans (and_iff_right fun t ht => k.created_le t (List.mem_cons_of_mem _ ht))
  have refl : ∀ t : Instant, t ≤ t := fun t => Nat.le_refl t.micros
  rw [first]
  cases hs : r.status with
  | pending | failed =>
    have hsent := k.consistent.sentAt_eq_none (by rw [hs]; rfl)
    have hdelivered := k.consistent.deliveredAt_eq_none (by rw [hs]; decide)
    simp [hsent, hdelivered]
  | sent =>
    have hdelivered := k.consistent.deliveredAt_eq_none (by rw [hs]; decide)
    simp [k.sent hs, hdelivered, refl]
  | delivered =>
    obtain ⟨t, ht⟩ := k.consistent.exists_sentAt (by rw [hs]; rfl)
    simp [ht, k.delivered hs, refl]

/-! ## Moving a record -/

section moved

variable {status : Status} (a : Instant) (error : Option String)

/-- A moment is at or after the creation, so a move keeps the times fitting. -/
theorem moved (k : r.Timed) (allowed : r.status.mayBecome status = true) :
    (r.moved status a error).Timed where
  consistent := k.consistent.moved allowed
  created_le t ht := by
    have moment : r.createdAt ≤ Instant.latest a r.createdAt := Instant.le_latest_right ..
    have old : ∀ x, r.sentAt = some x ∨ r.deliveredAt = some x → r.createdAt ≤ x :=
      fun x hx => k.created_le x (by simpa [times] using .inr (or_assoc.mp (.inl hx)))
    simp only [times, Record.moved, List.mem_cons, List.mem_append, Option.mem_toList,
      List.not_mem_nil, or_false] at ht
    rcases ht with rfl | ht | ht | rfl
    · exact Nat.le_refl _
    · split at ht
      · exact Option.some.inj ht ▸ moment
      · exact old t (.inl ht)
    · split at ht
      · exact Option.some.inj ht ▸ moment
      · exact old t (.inr ht)
    · exact moment
  pending h := absurd h (Status.ne_pending allowed)
  sent h := if_pos h
  delivered h := if_pos h

/-- The last change goes back exactly if a record that was sent after its creation moves at an
earlier moment. -/
theorem updatedAt_moved_lt_iff (k : r.Timed) (allowed : r.status.mayBecome status = true) :
    (r.moved status a error).updatedAt < r.updatedAt ↔
      r.status = .sent ∧ a < r.updatedAt ∧ r.createdAt < r.updatedAt := by
  have back : (r.moved status a error).updatedAt < r.updatedAt ↔
      a < r.updatedAt ∧ r.createdAt < r.updatedAt := Instant.latest_lt_iff
  rw [back, iff_and_self]
  rintro ⟨_, changed⟩
  rcases Status.pending_or_sent allowed with pending | sent
  · rw [k.pending pending] at changed
    exact absurd changed (Nat.lt_irrefl _)
  · exact sent

/-- The times leave their order exactly if the last change goes back. -/
theorem inOrder_moved_iff (k : r.Timed) (allowed : r.status.mayBecome status = true) :
    (r.moved status a error).InOrder ↔ ¬(r.moved status a error).updatedAt < r.updatedAt := by
  rw [(k.moved a error allowed).inOrder_iff]
  by_cases handed : r.status = .sent
  · -- the record was last changed when it was sent, and now it is delivered
    obtain rfl : status = .delivered := Status.sent_mayBecome_iff.mp (handed ▸ allowed)
    have sent : (r.moved .delivered a error).sentAt = some r.updatedAt := k.sent handed
    have delivered := (k.moved a error allowed).delivered rfl
    simp [sent, delivered, Instant.not_lt_iff]
  · have notDelivered : status ≠ .delivered := by
      rintro rfl
      exact handed (Status.mayBecome_delivered_iff.mp allowed)
    have delivered := (k.moved a error allowed).consistent.deliveredAt_eq_none notDelivered
    rw [k.updatedAt_moved_lt_iff a error allowed]
    simp [handed, delivered]

end moved

/-- The times are in order before a delivery. -/
theorem inOrder_of_not_delivered (k : r.Timed) (h : r.status ≠ .delivered) : r.InOrder := by
  simp [k.inOrder_iff, k.consistent.deliveredAt_eq_none h]

/-- A move keeps the times fitting. They leave their order, and the last change goes back, exactly
if the move confirms the record early. -/
theorem after (k : r.Timed) (h : r.after m = .ok r') :
    r'.Timed ∧ (r'.InOrder ↔ r.InOrder ∧ ¬r.ConfirmedEarly m) ∧
      (r'.updatedAt < r.updatedAt ↔ r.ConfirmedEarly m) := by
  obtain ⟨status, a, hname, ha, allowed, rfl⟩ := after_eq_moved h
  have early : r.ConfirmedEarly m ↔
      r.status = .sent ∧ a < r.updatedAt ∧ r.createdAt < r.updatedAt := by
    constructor
    · rintro ⟨hs, _, b, t, hb, ht, hlt⟩
      obtain rfl : a = b := Option.some.inj (ha.symm.trans hb)
      obtain rfl : r.updatedAt = t := Option.some.inj ((k.sent hs).symm.trans ht)
      exact ⟨hs, hlt⟩
    · rintro ⟨hs, hlt⟩
      obtain rfl := Status.sent_mayBecome_iff.mp (hs ▸ allowed)
      exact ⟨hs, hname, a, _, ha, k.sent hs, hlt⟩
  have notDelivered : r.status ≠ .delivered := fun h => by
    rw [Status.not_mayBecome (.inr h)] at allowed
    cases allowed
  have back := (k.updatedAt_moved_lt_iff a m.error allowed).trans early.symm
  refine ⟨k.moved a m.error allowed, ?_, back⟩
  rw [k.inOrder_moved_iff a m.error allowed, back,
    and_iff_right (k.inOrder_of_not_delivered notDelivered)]

end Timed

end Record

end Courier
