import Courier.Proofs.Dispatch.Halves
import Courier.Proofs.Matching

/-!
# Transport calls and what they come to

A transport call is made for a record, and may end once (`Landing`). A call that ends may give its
record a verdict: that it was sent or that it failed. The call explains the status of the record at
any time (`TransportCall.Explains`): without a verdict the record is pending
(`TransportCall.Explains.eq_pending`), and a sent record may since have been delivered.
-/

namespace Courier

/-- How a transport call came to its end, and what the clock showed then. -/
structure Landing where
  completion : Completion
  clock : Except Failure Reading

/-- The status that an ended transport call gives its record. A call that came to no report gives
none, and neither does one at whose end the clock does not tell the time. -/
def Landing.verdict? (l : Landing) : Option Status :=
  match l.completion.report?, l.clock with
  | some report, .ok now => now.toInstant?.map fun _ => report.status
  | _, _ => none

/-- A call of the transport, made for a record while a request was being served. -/
structure TransportCall where
  request : Request
  /-- The dispatcher when the send was started. -/
  atStart : Dispatcher
  /-- The dispatcher when the transport was called. -/
  atCall : Dispatcher
  record : Record
  landing : Option Landing := none

namespace TransportCall

/-- The status that a call has given its record so far. -/
def verdict? (c : TransportCall) : Option Status := c.landing.bind Landing.verdict?

/-- The status of a record is explained by the transport call made for it: it is sent, or has since
been delivered, exactly if that was the verdict, and failed exactly if that was. -/
structure Explains (c : TransportCall) (status : Status) : Prop where
  sent : status = .sent ∨ status = .delivered ↔ c.verdict? = some .sent
  failed : status = .failed ↔ c.verdict? = some .failed

/-- A call was given up if it took too long or its send was called off. -/
def GivenUp (c : TransportCall) : Prop :=
  ∃ l, c.landing = some l ∧ (l.completion = .timedOut ∨ l.completion = .cancelled)

/-- A call is proper if preferences and templates admitted the request when the send was started,
and the store held the call's record as pending when the transport was called. -/
structure Proper (c : TransportCall) : Prop where
  admitted : ∃ template, c.atStart.Admits c.request template
  recipient : c.record.recipient = c.request.recipient
  stored : ∃ r, (c.atCall.store.find? c.record.id).answer = .ok (some r) ∧ r.status = .pending

/-- The call, come to its end. -/
def ended (c : TransportCall) (l : Landing) : TransportCall := { c with landing := some l }

/-- A call at a later moment: it may have ended meanwhile, and is the same else. -/
def Later (c c' : TransportCall) : Prop :=
  c' = c ∨ c.landing = none ∧ ∃ l, c' = c.ended l

theorem Later.record {c c' : TransportCall} (h : c.Later c') : c'.record = c.record := by
  rcases h with rfl | ⟨_, l, rfl⟩ <;> rfl

theorem Later.trans {c c' c'' : TransportCall} (h : c.Later c') (g : c'.Later c'') :
    c.Later c'' := by
  rcases h with rfl | ⟨hnone, l, rfl⟩
  · exact g
  · rcases g with rfl | ⟨hsome, _⟩
    · exact .inr ⟨hnone, l, rfl⟩
    · cases hsome

/-- A verdict is the status of a report. -/
theorem exists_report {c : TransportCall} {status : Status} (h : c.verdict? = some status) :
    ∃ report : Delivery, status = report.status := by
  obtain ⟨l, _, hl⟩ := Option.bind_eq_some_iff.mp h
  unfold Landing.verdict? at hl
  split at hl
  · rename_i report now _ _
    obtain ⟨_, _, rfl⟩ := Option.map_eq_some_iff.mp hl
    exact ⟨report, rfl⟩
  · cases hl

theorem GivenUp.verdict?_eq_none {c : TransportCall} (h : c.GivenUp) : c.verdict? = none := by
  obtain ⟨l, hlanding, hl | hl⟩ := h <;>
    simp [verdict?, hlanding, Landing.verdict?, hl, Completion.report?]

theorem explains_pending {c : TransportCall} (h : c.verdict? = none) : c.Explains .pending :=
  ⟨by simp [h], by simp [h]⟩

theorem explains_report {c : TransportCall} {report : Delivery}
    (h : c.verdict? = some report.status) : c.Explains report.status := by
  constructor <;> rw [h] <;> cases report <;> simp [Delivery.status]

namespace Explains

variable {c : TransportCall} {status : Status}

/-- As long as a call has given no verdict, its record is pending. -/
theorem eq_pending (e : c.Explains status) (h : c.verdict? = none) : status = .pending := by
  have hsent := e.sent
  have hfailed := e.failed
  rw [h] at hsent hfailed
  cases status with
  | pending => rfl
  | sent => cases hsent.mp (.inl rfl)
  | delivered => cases hsent.mp (.inr rfl)
  | failed => cases hfailed.mp rfl

/-- A call whose record is pending has given no verdict. -/
theorem verdict?_eq_none (e : c.Explains .pending) : c.verdict? = none := by
  cases hverdict : c.verdict? with
  | none => rfl
  | some verdict =>
    obtain ⟨report, rfl⟩ := exists_report hverdict
    have hsent := e.sent
    have hfailed := e.failed
    rw [hverdict] at hsent hfailed
    cases report with
    | accepted => simp [Delivery.status] at hsent
    | refused _ => simp [Delivery.status] at hfailed

/-- What is explained when it is sent is explained when it is delivered. -/
theorem delivered (e : c.Explains .sent) : c.Explains .delivered := by
  have h := e.sent.mp (.inl rfl)
  exact ⟨by simp [h], by simp [h]⟩

end Explains

/-- No two calls come to be for one record because calls end. -/
theorem once_of_later {calls calls' : List TransportCall}
    (once : (calls.map fun c => c.record.id).Nodup) (later : List.Forall₂ Later calls calls') :
    (calls'.map fun c => c.record.id).Nodup := by
  rwa [← Matching.map_eq (f := fun c => c.record.id) (fun c c' hc => by rw [hc.record]) later]

/-- What was proper stays so. -/
theorem Proper.later {c c' : TransportCall} (p : c.Proper) (h : c.Later c') : c'.Proper := by
  rcases h with rfl | ⟨_, l, rfl⟩
  · exact p
  · exact ⟨p.admitted, p.recipient, p.stored⟩

end TransportCall

end Courier
