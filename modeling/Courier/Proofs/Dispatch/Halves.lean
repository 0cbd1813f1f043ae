import Courier.Dispatch.Send
import Courier.Proofs.Store.Failing
import Courier.Proofs.Store.Keeping

/-!
# The two halves of a send

What each half of a send can do, once and for all. The first half ends the send and changes nothing
(`Dispatcher.of_ended`), or it has appended a pending record, which the preferences and the
templates at that moment allow, and the send is in flight (`Dispatcher.of_flying`). The second half
moves the record if the transport call came to a report, and changes nothing otherwise
(`Dispatcher.finish_of_report`, `Dispatcher.finish_of_no_report`).
-/

namespace Courier

namespace Decision

theorem reason?_eq_none_iff {d : Decision} : d.reason? = none ↔ d = .allowed := by
  cases d <;> simp [reason?]

/-- Whatever a caller is told of an objection has a text. -/
theorem ne_empty_of_reason? {d : Decision} {reason : String} (h : d.reason? = some reason) :
    reason ≠ "" := by
  cases d <;> simp [reason?] at h <;> simp [← h]

end Decision

/-- What a transport call came to, if it came to a report: whatever it raises counts as a refusal,
unless the program is being stopped. -/
def Completion.report? : Completion → Option Delivery
  | .reported report => some report
  | .raised f => if f.isInterrupt then none else some (.refused (some f.shown))
  | .timedOut | .cancelled => none

/-- The status of a record whose transport call came to a report. -/
def Delivery.status : Delivery → Status
  | .accepted => .sent
  | .refused _ => .failed

theorem Record.errorText_ne_empty (error : Option String) : errorText error ≠ "" := by
  unfold errorText
  split
  · decide
  · rename_i s
    split
    · decide
    · rename_i h
      simpa using h

namespace Dispatcher

variable {d d' : Dispatcher} {q : Request} {s : Surroundings} {log : List Log.Entry}

/-! ## New records -/

/-- A new record is pending, and made for the request at a moment of the clock. -/
structure IsNew (q : Request) (now : Reading) (r : Record) : Prop where
  recipient : r.recipient = q.recipient
  eventType : r.eventType = q.eventType
  status : r.status = .pending
  createdAt : now.toInstant? = some r.createdAt
  updatedAt : r.updatedAt = r.createdAt
  sentAt : r.sentAt = none
  deliveredAt : r.deliveredAt = none
  error : r.error = none

theorem isNew_of_newRecord {p : Option Preference} {template : Template} {m : Message}
    {id : String} {now : Reading} {r : Record}
    (h : newRecord q p template m id now = .ok r) : IsNew q now r := by
  unfold newRecord at h
  split at h
  · cases h
  · rename_i a ha
    split at h
    · cases h
    · cases h
      exact ⟨rfl, rfl, rfl, ha, rfl, rfl, rfl, rfl⟩

/-- What a request needs to come to a record: preferences that allow it and a template. -/
structure Admits (d : Dispatcher) (q : Request) (template : Template) : Prop where
  allowed : ∃ p, (d.store.preference? q.recipient).answer = .ok p ∧
    Preference.decision p q.eventType = .allowed
  found : d.registry.find? q.eventType = some template

/-- A draft is ready exactly if the template can be rendered, there are a time and an identifier, and
a record can be made of them. -/
theorem draft_eq_ready_iff {p : Option Preference} {template template' : Template} {r : Record} :
    (draft q p template s).1 = .ready r template' ↔ template' = template ∧ ∃ m now id,
      Message.texts template q.values = .ok m ∧ s.clock = .ok now ∧ s.newId now = .ok id ∧
        newRecord q p template m id now = .ok r := by
  unfold draft Message.render
  dsimp only
  cases htexts : Message.texts template q.values with
  | error fault => simp
  | ok m =>
    dsimp only
    cases hclock : s.clock with
    | error f => simp
    | ok now =>
      dsimp only
      cases hid : s.newId now with
      | error f => simp [hid]
      | ok id =>
        dsimp only
        cases hnew : newRecord q p template m id now with
        | error f => simp [hid, hnew]
        | ok r' =>
          constructor
          · intro h
            cases h
            exact ⟨rfl, m, now, id, rfl, rfl, hid, hnew⟩
          · rintro ⟨rfl, _, _, id', ⟨⟩, ⟨⟩, hid', hnew'⟩
            obtain rfl : id' = id := Except.ok.inj (hid'.symm.trans hid)
            rw [Except.ok.inj (hnew'.symm.trans hnew)]

/-- A request is ready exactly if it is admitted and its draft is. -/
theorem plan_eq_ready_iff {template : Template} {r : Record} :
    (d.plan q s).1 = .ready r template ↔ ∃ p,
      (d.store.preference? q.recipient).answer = .ok p ∧
        Preference.decision p q.eventType = .allowed ∧ d.registry.find? q.eventType = some template ∧
          (draft q p template s).1 = .ready r template := by
  unfold plan
  dsimp only
  cases hasked : (d.store.preference? q.recipient).answer with
  | error f => simp
  | ok p =>
    dsimp only
    cases hreason : (Preference.decision p q.eventType).reason? with
    | some reason =>
      have barred : Preference.decision p q.eventType ≠ .allowed := by
        intro h
        rw [Decision.reason?_eq_none_iff.mpr h] at hreason
        cases hreason
      simp [barred]
    | none =>
      have allowed := Decision.reason?_eq_none_iff.mp hreason
      dsimp only
      cases hfound : d.registry.find? q.eventType with
      | none => simp
      | some found =>
        simp only [Except.ok.injEq, exists_eq_left', allowed, Option.some.injEq, true_and]
        constructor
        · intro h
          obtain ⟨rfl, _⟩ := draft_eq_ready_iff.mp h
          exact ⟨rfl, h⟩
        · rintro ⟨rfl, h⟩
          exact h

/-- A record that is ready was admitted, and is new. -/
theorem of_ready {r : Record} {template : Template} (h : d.plan q s = (.ready r template, log)) :
    d.Admits q template ∧ ∃ now, s.clock = .ok now ∧ IsNew q now r := by
  obtain ⟨p, hasked, hallowed, hfound, hdraft⟩ := plan_eq_ready_iff.mp (congrArg Prod.fst h)
  obtain ⟨_, m, now, id, _, hclock, _, hnew⟩ := draft_eq_ready_iff.mp hdraft
  exact ⟨⟨⟨p, hasked, hallowed⟩, hfound⟩, now, hclock, isNew_of_newRecord hnew⟩

/-- What a caller is told of a request that is declined has a text. -/
theorem ne_empty_of_declined {reason : String} (h : d.plan q s = (.declined reason, log)) :
    reason ≠ "" := by
  unfold plan at h
  dsimp only at h
  split at h
  · cases h
  · split at h
    · rename_i hreason
      cases h
      exact Decision.ne_empty_of_reason? hreason
    · split at h
      · cases h
        decide
      · unfold draft at h
        dsimp only at h
        repeat' split at h
        all_goals cases h

/-! ## The first half -/

theorem toldError_ne_empty (f : Failure) : toldError f ≠ "" := by
  unfold toldError
  split
  · decide
  · exact f.shown_ne_empty

/-- A receipt for a send of which there is no record. -/
def Unrecorded (e : Ending) : Prop :=
  ∃ error, error ≠ "" ∧ e = .receipt ⟨false, none, some error⟩

/-- A failure that befalls the first half of a send from outside. -/
def Befalls (d : Dispatcher) (s : Surroundings) (f : Failure) : Prop :=
  d.store.faults.preference = some f ∨ d.store.faults.append = some f ∨ s.clock = .error f ∨
    ∃ now, s.newId now = .error f

theorem harmless_newRecord (p : Option Preference) (template : Template) (m : Message)
    (id : String) (now : Reading) : Harmless (newRecord q p template m id now) := by
  unfold newRecord
  split
  · exact .error rfl
  · split
    · exact .error rfl
    · exact .ok _

theorem befalls_of_draft {p : Option Preference} {template : Template} {f : Failure}
    (h : draft q p template s = (.failed f, log)) (stops : f.isInterrupt = true) :
    d.Befalls s f := by
  unfold draft at h
  obtain ⟨hplan, _⟩ := Prod.mk.inj h
  split at hplan
  · rename_i g hrendered
    cases hplan
    unfold Message.render at hrendered
    split at hrendered
    · cases hrendered
      cases stops
    · cases hrendered
  · split at hplan
    · rename_i hclock
      cases hplan
      exact .inr (.inr (.inl hclock))
    · rename_i now _
      split at hplan
      · rename_i hid
        cases hplan
        exact .inr (.inr (.inr ⟨now, hid⟩))
      · split at hplan
        · rename_i hnew
          cases hplan
          rw [harmless_newRecord _ _ _ _ _ f hnew] at stops
          cases stops
        · cases hplan

/-- A failure that stops the program before anything is changed befalls it from outside. -/
theorem befalls_of_plan {f : Failure} (h : d.plan q s = (.failed f, log))
    (stops : f.isInterrupt = true) : d.Befalls s f := by
  unfold plan at h
  dsimp only at h
  split at h
  · rename_i hasked
    cases h
    rcases Store.preference?_fails hasked with hfault | harmless
    · exact .inl hfault
    · rw [harmless] at stops
      cases stops
  · split at h
    · cases h
    · split at h
      · cases h
      · obtain ⟨hplan, _⟩ := Prod.mk.inj h
        exact befalls_of_draft (Prod.ext hplan rfl) stops

/-- A send that ends in its first half changes nothing and says why it ended, unless a failure from
outside stops the program. -/
theorem of_ended {e : Ending} (h : d.start q s = (d', .ended e, log)) :
    d' = d ∧ (Unrecorded e ∨ ∃ f, e = .stopped f ∧ f.isInterrupt = true ∧ d.Befalls s f) := by
  unfold start at h
  dsimp only at h
  split at h
  · rename_i reason _ hplan
    cases h
    exact ⟨rfl, .inl ⟨reason, ne_empty_of_declined hplan, rfl⟩⟩
  · rename_i f _ hplan
    unfold unexpected at h
    split at h
    · rename_i stops
      cases h
      exact ⟨rfl, .inr ⟨f, rfl, stops, befalls_of_plan hplan stops⟩⟩
    · cases h
      exact ⟨rfl, .inl ⟨_, toldError_ne_empty f, rfl⟩⟩
  · rename_i r template _ _
    split at h
    · rename_i f happend
      have hstore := Store.append_error happend
      split at h
      · rename_i stops
        cases h
        refine ⟨by rw [hstore], .inr ⟨f, rfl, stops, ?_⟩⟩
        rcases Store.append_fails happend with hfault | harmless
        · exact .inr (.inl hfault)
        · rw [harmless] at stops
          cases stops
      · cases h
        exact ⟨by rw [hstore], .inl ⟨recordFailed, by decide, rfl⟩⟩
    · cases h

/-- A send in flight was admitted, and its new record has been appended. -/
theorem of_flying {flight : Flight} (h : d.start q s = (d', .flying flight, log)) :
    (∃ template, d.Admits q template) ∧ (∃ now, s.clock = .ok now ∧ IsNew q now flight.record) ∧
      (∃ kept, (d.store.append flight.record).2.answer = .ok kept) ∧
      d' = { d with store := (d.store.append flight.record).1 } := by
  unfold start at h
  dsimp only at h
  split at h
  · cases h
  · cases h
  · rename_i r template _ hplan
    split at h
    · split at h <;> cases h
    · rename_i kept happend
      cases h
      obtain ⟨admits, hnew⟩ := of_ready hplan
      exact ⟨⟨template, admits⟩, hnew, ⟨kept, happend⟩, rfl⟩

/-- A send is in flight exactly if its record is ready and the store takes it. -/
theorem start_eq_flying_iff {flight : Flight} : (d.start q s).2.1 = .flying flight ↔
    (∃ template, (d.plan q s).1 = .ready flight.record template) ∧
      ∃ kept, (d.store.append flight.record).2.answer = .ok kept := by
  unfold start
  dsimp only
  rcases hplan : d.plan q s with ⟨reason | f | ⟨r, template⟩, log⟩
  · simp
  · dsimp only
    simp
  · dsimp only
    cases happend : (d.store.append r).2.answer with
    | error f =>
      have refused : ∀ flight : Flight, r = flight.record →
          ¬∃ kept, (d.store.append flight.record).2.answer = .ok kept := by
        rintro flight rfl ⟨kept, hkept⟩
        rw [happend] at hkept
        cases hkept
      constructor
      · intro h
        dsimp only at h
        split at h <;> cases h
      · rintro ⟨⟨_, hready⟩, hkept⟩
        cases hready
        exact absurd hkept (refused _ rfl)
    | ok kept =>
      constructor
      · intro h
        cases h
        exact ⟨⟨template, rfl⟩, kept, happend⟩
      · rintro ⟨⟨_, hready⟩, _⟩
        cases hready
        rfl

/-! ## The second half -/

variable {flight : Flight} {c : Completion} {report : Delivery} {clock : Except Failure Reading}

theorem finish_of_report (h : c.report? = some report) :
    d.finish flight c clock = d.conclude flight report clock := by
  cases c with
  | reported r =>
    cases h
    rfl
  | raised f =>
    unfold Completion.report? at h
    unfold finish
    dsimp only at h ⊢
    split at h
    · cases h
    · rename_i going
      cases h
      rw [if_neg going]
  | timedOut => cases h
  | cancelled => cases h

/-- A call that came to no report changes nothing. -/
theorem finish_of_no_report (h : c.report? = none) : (d.finish flight c clock).1 = d := by
  cases c with
  | reported r => cases h
  | raised f =>
    unfold Completion.report? at h
    unfold finish
    dsimp only at h ⊢
    split at h
    · rename_i stopped
      rw [if_pos stopped]
    · cases h
  | timedOut => rfl
  | cancelled => rfl

/-- The answer to the request to record a report. -/
def recording (d : Dispatcher) (flight : Flight) (report : Delivery)
    (clock : Except Failure Reading) : Except Failure Record :=
  match clock with
  | .error f => .error f
  | .ok now => (d.store.move flight.record.id (moveFor report now)).2.answer

/-- A report that cannot be recorded changes nothing. -/
theorem conclude_of_error {f : Failure} (h : d.recording flight report clock = .error f) :
    (d.conclude flight report clock).1 = d ∧ (d.conclude flight report clock).2.1 =
      (unexpected flight.record.eventType flight.record.recipient (some flight.record.id) f).1 := by
  unfold recording at h
  unfold conclude
  split at h
  · cases h
    exact ⟨rfl, rfl⟩
  · dsimp only
    rw [h]
    dsimp only
    rw [Store.move_error h]
    exact ⟨rfl, rfl⟩

/-- A report that was recorded moved the record. -/
theorem conclude_of_ok {updated : Record} (h : d.recording flight report clock = .ok updated) :
    ∃ now, clock = .ok now ∧
      (d.store.move flight.record.id (moveFor report now)).2.answer = .ok updated ∧
      (d.conclude flight report clock).1 =
        { d with store := (d.store.move flight.record.id (moveFor report now)).1 } ∧
      (d.conclude flight report clock).2.1 = .receipt (settled flight.record updated report).1 := by
  unfold recording at h
  split at h
  · cases h
  · rename_i now
    refine ⟨now, rfl, h, ?_, ?_⟩
    · unfold conclude
      dsimp only
      rw [h]
    · unfold conclude
      dsimp only
      rw [h]

/-- The move for a report takes a pending record to the status of the report. -/
theorem of_after_moveFor {r r' : Record} {now : Reading}
    (h : r.after (moveFor report now) = .ok r') :
    r.status = .pending ∧ r'.status = report.status ∧
      ∀ error, report = .refused error → r'.error = some (Record.errorText error) := by
  obtain ⟨status, a, hs, _, allowed, rfl⟩ := Record.after_eq_moved h
  cases report with
  | accepted =>
    obtain rfl : Status.sent = status := by simpa [moveFor] using hs
    refine ⟨?_, rfl, by simp⟩
    rcases Status.mayBecome_iff.mp allowed with ⟨hr, _⟩ | ⟨hr, _⟩ | ⟨_, hs⟩
    · exact hr
    · exact hr
    · cases hs
  | refused error =>
    obtain rfl : Status.failed = status := by simpa [moveFor] using hs
    refine ⟨?_, rfl, ?_⟩
    · rcases Status.mayBecome_iff.mp allowed with ⟨hr, _⟩ | ⟨hr, _⟩ | ⟨_, hs⟩
      · exact hr
      · exact hr
      · cases hs
    · rintro _ ⟨⟩
      rfl

/-- A pending record can be moved for any report, as soon as the clock tells the time. -/
theorem after_moveFor {r : Record} (pending : r.status = .pending) (report : Delivery)
    (now : Reading) : r.after (moveFor report now) =
      match now.toInstant? with
      | none => .error .beyondCalendar
      | some a => .ok (r.moved report.status a (moveFor report now).error) := by
  have named : Status.ofName? (moveFor report now).status = some report.status := by
    cases report <;> rfl
  have allowed : Status.pending.mayBecome report.status = true := by
    cases report <;> rfl
  have time : (moveFor report now).time = now := by
    cases report <;> rfl
  unfold Record.after
  cases htime : now.toInstant? with
  | none => simp only [named, pending, allowed, time, htime, if_true]
  | some a => simp only [named, pending, allowed, time, htime, if_true]

end Dispatcher

end Courier
