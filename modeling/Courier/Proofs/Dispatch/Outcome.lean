import Courier.Dispatch.Call
import Courier.Proofs.Dispatch.Halves
import Courier.Proofs.Store.Holding

/-!
# How a send ends

A whole send, with anything that may fail on its way: the store, the clock, the maker of
identifiers, the template, the transport, and the request to record what it reported. As long as
nothing stops the program, a send ends in exactly one of four ways (`Dispatcher.Way`), and what the
caller is told is what the store holds. Main statement: `Dispatcher.attempt_existsUnique_way`, for
every dispatcher, whatever is in its store.
-/

namespace Courier.Dispatcher

/-- What a whole send leaves behind: the dispatcher, how it ended, and the records that the
transport was called with. -/
structure Attempt where
  after : Dispatcher
  ending : Ending
  handed : List Record

/-- The dispatcher and the send in flight at the moment of the transport call, if it comes to
that. -/
def midway (d : Dispatcher) (q : Request) (s : Surroundings) : Option (Dispatcher × Flight) :=
  match d.start q s with
  | (_, .ended _, _) => none
  | (d', .flying flight, _) => some (d', flight)

/-- A whole send: `deliver` is what becomes of a transport call, and `clock` is the clock after
it. -/
def attempt (d : Dispatcher) (q : Request) (s : Surroundings) (deliver : Record → Completion)
    (clock : Except Failure Reading) : Attempt :=
  match d.start q s with
  | (d', .ended ending, _) => ⟨d', ending, []⟩
  | (d', .flying flight, _) =>
    let finished := d'.finish flight (deliver flight.record) clock
    ⟨finished.1, finished.2.1, [flight.record]⟩

/-- No collaborator stops the program. -/
structure Uninterrupted (d : Dispatcher) (s : Surroundings) (deliver : Record → Completion)
    (clock : Except Failure Reading) : Prop where
  start : ∀ f, d.Befalls s f → f.isInterrupt = false
  transport : ∀ r f, deliver r = .raised f → f.isInterrupt = false
  finish : ∀ f, d.store.faults.move = some f ∨ clock = .error f → f.isInterrupt = false

/-- The ways in which a send may end. -/
inductive Way where
  /-- The transport took the notification over. -/
  | accepted
  /-- There is a record, but the transport is not known to have taken it over. -/
  | undelivered
  /-- There is no record. -/
  | unrecorded
  /-- The send was called off. -/
  | cancelled
deriving DecidableEq, Repr

/-- Why a record stays pending although its send is over: the transport took too long, or what it
reported could not be recorded. -/
def StaysPending (d : Dispatcher) (q : Request) (s : Surroundings) (deliver : Record → Completion)
    (clock : Except Failure Reading) : Prop :=
  ∃ d' flight, d.midway q s = some (d', flight) ∧
    (deliver flight.record = .timedOut ∨ ∃ report f, (deliver flight.record).report? = some report ∧
      d'.recording flight report clock = .error f)

/-- What a send leaves behind when it ends in a way: what the caller is told, and what a store that
is asked for the record answers. -/
def Way.Describes (d : Dispatcher) (q : Request) (s : Surroundings) (deliver : Record → Completion)
    (clock : Except Failure Reading) (way : Way) : Prop :=
  let a := d.attempt q s deliver clock
  match way with
  | accepted => ∃ r, a.ending = .receipt ⟨true, some r.id, none⟩ ∧ a.handed.map Record.id = [r.id] ∧
      (a.after.store.find? r.id).answer = .ok (some r) ∧ r.status = .sent
  | undelivered => ∃ r error, a.ending = .receipt ⟨false, some r.id, some error⟩ ∧ error ≠ "" ∧
      a.handed.map Record.id = [r.id] ∧ (a.after.store.find? r.id).answer = .ok (some r) ∧
      (r.status = .failed ∧ r.error = some error ∨
        r.status = .pending ∧ d.StaysPending q s deliver clock)
  | unrecorded => ∃ error, a.ending = .receipt ⟨false, none, some error⟩ ∧ error ≠ "" ∧
      a.handed = [] ∧ a.after = d
  | cancelled => ∃ r, a.ending = .cancelled ∧ a.handed.map Record.id = [r.id] ∧
      (a.after.store.find? r.id).answer = .ok (some r) ∧ r.status = .pending

/-- The way that an ending belongs to. -/
def Way.ofEnding? : Ending → Option Way
  | .receipt ⟨true, _, _⟩ => some accepted
  | .receipt ⟨false, some _, _⟩ => some undelivered
  | .receipt ⟨false, none, _⟩ => some unrecorded
  | .cancelled => some cancelled
  | .stopped _ => none

variable {d d' : Dispatcher} {q : Request} {s : Surroundings} {deliver : Record → Completion}
  {clock : Except Failure Reading} {log : List Log.Entry} {flight : Flight}

/-- A send ends in one way at most. -/
theorem Way.ofEnding?_of_describes {way : Way} (h : way.Describes d q s deliver clock) :
    ofEnding? (d.attempt q s deliver clock).ending = some way := by
  cases way with
  | accepted =>
    obtain ⟨r, hending, _⟩ := h
    rw [hending]
    rfl
  | undelivered =>
    obtain ⟨r, error, hending, _⟩ := h
    rw [hending]
    rfl
  | unrecorded =>
    obtain ⟨error, hending, _⟩ := h
    rw [hending]
    rfl
  | cancelled =>
    obtain ⟨r, hending, _⟩ := h
    rw [hending]
    rfl

theorem attempt_of_flying (h : d.start q s = (d', .flying flight, log)) :
    d.attempt q s deliver clock =
      ⟨(d'.finish flight (deliver flight.record) clock).1,
        (d'.finish flight (deliver flight.record) clock).2.1, [flight.record]⟩ := by
  simp only [attempt, h]

/-- What a transport is handed is the record of the send in flight. -/
theorem handed_eq (d : Dispatcher) (q : Request) (s : Surroundings) (deliver : Record → Completion)
    (clock : Except Failure Reading) : (d.attempt q s deliver clock).handed =
      match (d.start q s).2.1 with
      | .ended _ => []
      | .flying flight => [flight.record] := by
  rcases h : d.start q s with ⟨d', e | flight, log⟩ <;> simp only [attempt, h]

/-- A send over a transport is an attempt in which the transport calls upon the network. -/
theorem send_eq_attempt (d : Dispatcher) (t : Transport) (network : Network) (q : Request)
    (s : Surroundings) (later : Except Failure Reading) :
    let a := d.attempt q s (fun r => (t.call network d.timeout r).1) later
    (d.send t network q s later).1 = a.after ∧ (d.send t network q s later).2.1 = a.ending := by
  rcases h : d.start q s with ⟨d', e | flight, log⟩
  · simp only [send, attempt, h, and_self]
  · have htimeout : d'.timeout = d.timeout := by
      obtain ⟨_, _, _, rfl⟩ := of_flying h
      rfl
    simp only [send, attempt, h, htimeout, and_self]

/-- A send that ends before the transport is called leaves no record. -/
theorem describes_of_ended {e : Ending} (u : d.Uninterrupted s deliver clock)
    (h : d.start q s = (d', .ended e, log)) : Way.unrecorded.Describes d q s deliver clock := by
  have hattempt : d.attempt q s deliver clock = ⟨d', e, []⟩ := by simp only [attempt, h]
  rcases of_ended h with ⟨rfl, ⟨error, hne, rfl⟩ | ⟨f, _, stops, befalls⟩⟩
  · simp only [Way.Describes, hattempt]
    exact ⟨error, rfl, hne, trivial, trivial⟩
  · rw [u.start f befalls] at stops
    cases stops

/-- A send in flight has its record held by the store, pending. -/
theorem held_of_flying (h : d.start q s = (d', .flying flight, log)) :
    ∃ kept, d'.store.Holds kept ∧ kept.id = flight.record.id ∧ kept.status = .pending ∧
      d'.store.faults = d.store.faults := by
  obtain ⟨_, ⟨_, _, hnew⟩, ⟨kept, hkept⟩, rfl⟩ := of_flying h
  obtain ⟨hholds, metadata, rfl⟩ := Store.holds_of_append hkept
  exact ⟨_, hholds, rfl, hnew.status, Store.faults_append _ _⟩

/-- A send that is called off leaves its record pending. -/
theorem describes_of_cancelled (h : d.start q s = (d', .flying flight, log))
    (hc : deliver flight.record = .cancelled) :
    Way.cancelled.Describes d q s deliver clock := by
  obtain ⟨kept, hholds, hid, hstatus, _⟩ := held_of_flying h
  simp only [Way.Describes, attempt_of_flying h, hc]
  exact ⟨kept, rfl, by simp [hid], hholds.find?, hstatus⟩

theorem timeoutText_ne_empty (timeout : Number) : timeoutText timeout ≠ "" := by
  unfold timeoutText
  generalize timeout.brief = seconds
  simp

/-- A send whose transport call takes too long leaves its record pending. -/
theorem describes_of_timedOut (h : d.start q s = (d', .flying flight, log))
    (hc : deliver flight.record = .timedOut) :
    Way.undelivered.Describes d q s deliver clock := by
  obtain ⟨kept, hholds, hid, hstatus, _⟩ := held_of_flying h
  have hmidway : d.midway q s = some (d', flight) := by simp only [midway, h]
  simp only [Way.Describes, attempt_of_flying h, hc]
  exact ⟨kept, timeoutText d'.timeout, by rw [hid]; rfl, timeoutText_ne_empty _, by simp [hid],
    hholds.find?, .inr ⟨hstatus, d', flight, hmidway, .inl hc⟩⟩

/-- What a report cannot be recorded for does not stop the program. -/
theorem Uninterrupted.isInterrupt_of_recording {report : Delivery} {f : Failure}
    (u : d.Uninterrupted s deliver clock) (hfaults : d'.store.faults = d.store.faults)
    (hf : d'.recording flight report clock = .error f) : f.isInterrupt = false := by
  unfold recording at hf
  split at hf
  · rename_i g
    cases hf
    exact u.finish f (.inr rfl)
  · rcases Store.move_fails hf with hfault | harmless
    · exact u.finish f (.inl (hfaults ▸ hfault))
    · exact harmless

/-- A report that cannot be recorded leaves the record pending. -/
theorem describes_of_unrecorded {report : Delivery} {f : Failure}
    (u : d.Uninterrupted s deliver clock) (h : d.start q s = (d', .flying flight, log))
    (hc : (deliver flight.record).report? = some report)
    (hf : d'.recording flight report clock = .error f) :
    Way.undelivered.Describes d q s deliver clock := by
  obtain ⟨kept, hholds, hid, hstatus, hfaults⟩ := held_of_flying h
  have hmidway : d.midway q s = some (d', flight) := by simp only [midway, h]
  have going : f.isInterrupt = false := u.isInterrupt_of_recording hfaults hf
  obtain ⟨hafter, hending⟩ := conclude_of_error hf
  have htold : (d'.conclude flight report clock).2.1 =
      .receipt ⟨false, some kept.id, some (toldError f)⟩ := by
    rw [hending, unexpected, if_neg (by simp [going]), hid]
  simp only [Way.Describes, attempt_of_flying h, finish_of_report hc, hafter]
  exact ⟨kept, toldError f, htold, toldError_ne_empty f, by simp [hid], hholds.find?,
    .inr ⟨hstatus, d', flight, hmidway, .inr ⟨report, f, hc, hf⟩⟩⟩

/-- A report that is recorded takes the record to the status of the report. -/
theorem describes_of_recorded {report : Delivery} {updated : Record}
    (h : d.start q s = (d', .flying flight, log))
    (hc : (deliver flight.record).report? = some report)
    (hf : d'.recording flight report clock = .ok updated) :
    ∃ way : Way, way.Describes d q s deliver clock := by
  obtain ⟨kept, hholds, hid, _, _⟩ := held_of_flying h
  obtain ⟨now, _, hmove, hafter, hending⟩ := conclude_of_ok hf
  rw [← hid] at hmove
  obtain ⟨hmoved, hholds'⟩ := hholds.of_move hmove
  obtain ⟨_, hstatus, herror⟩ := of_after_moveFor hmoved
  have hid' : updated.id = flight.record.id := (Record.id_of_after hmoved).trans hid
  have hfind : ((d'.conclude flight report clock).1.store.find? updated.id).answer =
      .ok (some updated) := by
    rw [hafter, ← hid]
    exact hholds'.find?
  cases report with
  | accepted =>
    refine ⟨.accepted, ?_⟩
    simp only [Way.Describes, attempt_of_flying h, finish_of_report hc]
    exact ⟨updated, by rw [hending, hid']; rfl, by simp [hid'], hfind, hstatus⟩
  | refused error =>
    refine ⟨.undelivered, ?_⟩
    have htold := herror error rfl
    simp only [Way.Describes, attempt_of_flying h, finish_of_report hc]
    exact ⟨updated, Record.errorText error, by rw [hending, hid', settled, htold],
      Record.errorText_ne_empty error, by simp [hid'], hfind, .inl ⟨hstatus, htold⟩⟩

/-- A call that nothing stops comes to a report, unless it takes too long or is called off. -/
theorem Uninterrupted.report?_or {r : Record} (u : d.Uninterrupted s deliver clock) :
    (∃ report, (deliver r).report? = some report) ∨ deliver r = .timedOut ∨
      deliver r = .cancelled := by
  cases hc : deliver r with
  | reported report => exact .inl ⟨report, rfl⟩
  | raised f => exact .inl ⟨_, by rw [Completion.report?, if_neg (by simp [u.transport r f hc])]⟩
  | timedOut => exact .inr (.inl rfl)
  | cancelled => exact .inr (.inr rfl)

/-- A send ends in exactly one of four ways: the transport has taken the notification over and the
store holds a sent record; the store holds a record that failed with the very text that the caller
gets, or that is still pending; there is no record, nothing has changed and the transport was not
called; or the send was called off and its record is pending. Whoever is told of an error is told
something. -/
theorem attempt_existsUnique_way (u : d.Uninterrupted s deliver clock) (q : Request) :
    ∃ way : Way, way.Describes d q s deliver clock ∧
      ∀ other : Way, other.Describes d q s deliver clock → other = way := by
  have exists_way : ∃ way : Way, way.Describes d q s deliver clock := by
    rcases h : d.start q s with ⟨d', e | flight, log⟩
    · exact ⟨.unrecorded, describes_of_ended u h⟩
    · rcases u.report?_or (r := flight.record) with ⟨report, hc⟩ | hc | hc
      · cases hf : d'.recording flight report clock with
        | error f => exact ⟨.undelivered, describes_of_unrecorded u h hc hf⟩
        | ok updated => exact describes_of_recorded h hc hf
      · exact ⟨.undelivered, describes_of_timedOut h hc⟩
      · exact ⟨.cancelled, describes_of_cancelled h hc⟩
  obtain ⟨way, hway⟩ := exists_way
  refine ⟨way, hway, fun other hother => ?_⟩
  have hsame := Way.ofEnding?_of_describes hother
  rw [Way.ofEnding?_of_describes hway] at hsame
  exact (Option.some.inj hsame).symm

/-- A send over a transport raises an error without a text, and then the store cannot record it. -/
theorem attempt_existsUnique_way_unrecorded_error :
    let template : Template := { id := "t", eventType := "offer-letter", subject := "Offer" }
    let d : Dispatcher :=
      { store := { backing := .database {}, faults := { move := some (.persistence "full") } }
        registry := [template] }
    let q : Request := { recipient := "ada", eventType := "offer-letter" }
    let s : Surroundings := ⟨.ok (.ofInstant Record.morning), fun _ => .ok "n1"⟩
    let deliver := fun _ => Completion.raised (.mishap ⟨.runtime, none⟩)
    d.Uninterrupted s deliver s.clock ∧
      ∃ way : Way, way.Describes d q s deliver s.clock ∧
        ∀ other : Way, other.Describes d q s deliver s.clock → other = way := by
  intro template d q s deliver
  have u : d.Uninterrupted s deliver s.clock := by
    refine ⟨?_, ?_, ?_⟩
    · rintro f (h | h | h | ⟨now, h⟩) <;> cases h
    · rintro r f ⟨⟩
      rfl
    · rintro f (h | h)
      · cases h
        rfl
      · cases h
  exact ⟨u, attempt_existsUnique_way u q⟩

end Courier.Dispatcher
