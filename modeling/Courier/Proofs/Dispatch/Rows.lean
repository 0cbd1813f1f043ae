import Courier.Proofs.Dispatch.Outcome
import Courier.Proofs.Store.Independence

/-!
# What a send does to the tables

A send over a database leaves every row alone that was there before. It adds at most one row of its
own at the end, and the receipt tells of success exactly if that row is one of a sent record
(`Dispatcher.Adds`). Main statement: `Dispatcher.adds_of_attempt`, for any rows whatever.
-/

namespace Courier

/-! ## Rows -/

/-- Rewriting the last row touches no other, if no other has its identifier. -/
theorem Database.rewritten_last {rows : List Row} {row new : Row}
    (free : (rows.any fun r => r.id == new.id) = false) (hid : row.id = new.id) :
    rewritten (rows ++ [row]) new = rows ++ [new] := by
  have others : rows.map (fun r => if r.id == new.id then new else r) = rows := by
    refine (List.map_congr_left fun r hr => ?_).trans rows.map_id
    have other := List.any_eq_false.mp free r hr
    rw [if_neg other]
    rfl
  rw [rewritten, List.map_append, others, List.map_cons, List.map_nil, if_pos (by simpa using hid)]

theorem find?_last {rows : List Row} {row : Row}
    (free : (rows.any fun r => r.id == row.id) = false) :
    (rows ++ [row]).find? (fun r => r.id == row.id) = some row := by
  have none : rows.find? (fun r => r.id == row.id) = Option.none := by
    rw [List.find?_eq_none]
    exact List.any_eq_false.mp free
  rw [List.find?_append, none, Option.none_or, List.find?_cons, beq_self_eq_true]

namespace Store

variable {table : Option (List PreferenceRow)} {rows : List Row} {r kept updated : Record}

/-- A record that a database has taken is kept in a new row at the end. -/
theorem exists_row_of_append (ha : ((ofRows {} table rows).append r).2.answer = .ok kept) :
    ∃ row, ((ofRows {} table rows).append r).1 = ofRows {} table (rows ++ [row]) ∧
      (rows.any fun old => old.id == row.id) = false ∧ row.id = r.id ∧ row.status = r.status.name ∧
      row.Keeps kept := by
  rcases appends_of_ok ha with ⟨before, _, _⟩ | ⟨before, happend, after⟩
  · cases before
  · cases before
    obtain ⟨rows', row, hrows, free, written, read, rfl⟩ := Database.of_append happend
    obtain rfl : rows = rows' := Option.some.inj hrows
    have hid := Row.id_of_ofRecord written
    obtain ⟨ms, _, hrow⟩ := Row.ofRecord_ok_iff.mp written
    refine ⟨row, after, hid ▸ free, hid, ?_, (Row.keeps_of_toRecord written read).1⟩
    rw [hrow]
    rfl

/-- Moving the record of the last row rewrites that row and no other. -/
theorem exists_row_of_move {row : Row} {m : Record.Move} (k : row.Keeps kept)
    (free : (rows.any fun old => old.id == row.id) = false)
    (hm : ((ofRows {} table (rows ++ [row])).move row.id m).2.answer = .ok updated) :
    ∃ new, ((ofRows {} table (rows ++ [row])).move row.id m).1 = ofRows {} table (rows ++ [new]) ∧
      new.id = row.id ∧ new.status = updated.status.name ∧ kept.after m = .ok updated := by
  rcases moves_of_ok hm with ⟨before, _, _⟩ | ⟨before, moved, after⟩
  · cases before
  · cases before
    rw [Database.move_of_keeps rfl (find?_last free) k m] at moved
    cases hafter : kept.after m with
    | error f =>
      rw [hafter] at moved
      cases moved
    | ok _ =>
      obtain ⟨new, written, hkept⟩ := k.after hafter
      rw [hafter, Except.bind, written] at moved
      cases moved
      have hid : new.id = row.id := by rw [hkept.id, Record.id_of_after hafter, ← k.id]
      rw [Database.rewritten_last (hid ▸ free) hid.symm] at after
      exact ⟨new, after, hid, hkept.status, rfl⟩

end Store

/-! ## Sends -/

namespace Dispatcher

variable {d d' : Dispatcher} {q : Request} {s : Surroundings} {deliver : Record → Completion}
  {clock : Except Failure Reading} {table : Option (List PreferenceRow)} {rows : List Row}
  {flight : Flight}

/-- The rows that a send adds, by its ending: none or one of a record that is not sent without
success, and one of a sent record with success. -/
inductive Adds : Ending → List Row → Prop
  | nothing {receipt : Receipt} (failed : receipt.success = false) : Adds (.receipt receipt) []
  | unsent {receipt : Receipt} {row : Row} (failed : receipt.success = false)
      (unsent : row.status ≠ Status.sent.name) : Adds (.receipt receipt) [row]
  | sent {row : Row} (sent : row.status = Status.sent.name) :
      Adds (.receipt ⟨true, some row.id, none⟩) [row]

theorem Adds.exists_receipt {e : Ending} {added : List Row} (h : Adds e added) :
    ∃ receipt, e = .receipt receipt := by
  cases h <;> exact ⟨_, rfl⟩

/-- A failure that stops nothing ends a send without success. -/
theorem exists_receipt_of_unexpected {f : Failure} (h : f.isInterrupt = false)
    (eventType recipient : String) (id : Option String) : ∃ receipt : Receipt,
      receipt.success = false ∧ (unexpected eventType recipient id f).1 = .receipt receipt := by
  rw [unexpected, if_neg (by simp [h])]
  exact ⟨_, rfl, rfl⟩

/-- A report that is recorded rewrites the row of its record, and the receipt tells of success exactly
if the transport has taken the notification over. -/
theorem adds_of_recorded {row : Row} {kept updated : Record} {report : Delivery}
    (hrecord : d.recording flight report clock = .ok updated)
    (hstore : d.store = Store.ofRows {} table (rows ++ [row]))
    (free : (rows.any fun old => old.id == row.id) = false) (hid : row.id = flight.record.id)
    (k : row.Keeps kept) : ∃ new,
      (d.conclude flight report clock).1.store = Store.ofRows {} table (rows ++ [new]) ∧
        Adds (d.conclude flight report clock).2.1 [new] := by
  obtain ⟨now, _, hmove, hafter, hending⟩ := conclude_of_ok hrecord
  rw [hstore, ← hid] at hmove
  obtain ⟨new, hnew, hnewId, hstatus, hmoved⟩ := Store.exists_row_of_move k free hmove
  obtain ⟨_, hreached, _⟩ := of_after_moveFor hmoved
  rw [hreached] at hstatus
  refine ⟨new, by rw [hafter, hstore, ← hid]; exact hnew, ?_⟩
  rw [hending]
  cases report with
  | accepted =>
    have receipt : (settled flight.record updated .accepted).1 = ⟨true, some new.id, none⟩ := by
      rw [hnewId, hid]
      rfl
    rw [receipt]
    exact .sent hstatus
  | refused error =>
    have failed : Status.failed.name ≠ Status.sent.name := by decide
    exact .unsent rfl (hstatus ▸ failed)

/-- The second half of a send adds no row, but may rewrite the one that the first half has added. -/
theorem adds_of_finish {row : Row} {kept : Record} (u : d.Uninterrupted s deliver clock)
    (uncancelled : deliver flight.record ≠ .cancelled)
    (hstore : d.store = Store.ofRows {} table (rows ++ [row]))
    (free : (rows.any fun old => old.id == row.id) = false) (hid : row.id = flight.record.id)
    (pending : row.status = Status.pending.name) (k : row.Keeps kept) : ∃ new,
      (d.finish flight (deliver flight.record) clock).1.store =
          Store.ofRows {} table (rows ++ [new]) ∧
        Adds (d.finish flight (deliver flight.record) clock).2.1 [new] := by
  have unsent : row.status ≠ Status.sent.name := by
    rw [pending]
    decide
  cases hreport : (deliver flight.record).report? with
  | none =>
    refine ⟨row, by rw [finish_of_no_report hreport, hstore], ?_⟩
    rcases @Uninterrupted.report?_or d s deliver clock flight.record u with ⟨report, hc⟩ | hc | hc
    · rw [hreport] at hc
      cases hc
    · rw [hc]
      exact .unsent rfl unsent
    · exact absurd hc uncancelled
  | some report =>
    rw [finish_of_report hreport]
    cases hrecord : d.recording flight report clock with
    | error f =>
      obtain ⟨hafter, hending⟩ := conclude_of_error hrecord
      obtain ⟨receipt, failed, hreceipt⟩ := exists_receipt_of_unexpected
        (u.isInterrupt_of_recording rfl hrecord) flight.record.eventType flight.record.recipient
        (some flight.record.id)
      rw [hafter, hending, hreceipt]
      exact ⟨row, hstore, .unsent failed unsent⟩
    | ok updated => exact adds_of_recorded hrecord hstore free hid k

/-- A send over a database adds at most one row, and leaves the rows alone that are there. -/
theorem adds_of_attempt (u : d.Uninterrupted s deliver clock)
    (uncancelled : ∀ r, deliver r ≠ .cancelled) (hstore : d.store = Store.ofRows {} table rows)
    (q : Request) : ∃ added,
      (d.attempt q s deliver clock).after.store = Store.ofRows {} table (rows ++ added) ∧
        Adds (d.attempt q s deliver clock).ending added := by
  rcases h : d.start q s with ⟨d', e | flight, log⟩
  · have hattempt : d.attempt q s deliver clock = ⟨d', e, []⟩ := by simp only [attempt, h]
    rw [hattempt]
    refine ⟨[], ?_, ?_⟩
    · obtain ⟨rfl, _⟩ := of_ended h
      rw [List.append_nil]
      exact hstore
    · rcases of_ended h with ⟨_, ⟨error, _, rfl⟩ | ⟨f, _, stops, befalls⟩⟩
      · exact .nothing rfl
      · rw [u.start f befalls] at stops
        cases stops
  · rw [attempt_of_flying h]
    obtain ⟨_, ⟨now, _, hnew⟩, ⟨kept, hkept⟩, rfl⟩ := of_flying h
    rw [hstore] at hkept
    obtain ⟨row, happended, free, hid, hstatus, k⟩ := Store.exists_row_of_append hkept
    have u' : Uninterrupted { d with store := (d.store.append flight.record).1 } s deliver
        clock := by
      refine ⟨fun f hf => ?_, u.transport, fun f hf => ?_⟩
      · refine u.start f ?_
        rwa [Befalls, Store.faults_append] at hf
      · refine u.finish f ?_
        rwa [Store.faults_append] at hf
    have stored : (d.store.append flight.record).1 = Store.ofRows {} table (rows ++ [row]) := by
      rw [hstore, happended]
    have pending : row.status = Status.pending.name := by rw [hstatus, hnew.status]
    obtain ⟨new, hnew, adds⟩ := adds_of_finish u' (uncancelled _) stored free hid pending k
    exact ⟨[new], hnew, adds⟩

end Dispatcher

end Courier
