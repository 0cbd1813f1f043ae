import Courier.Store.Basic

/-!
# The sweep

A record stays pending when its delivery took too long or was called off. The sweep lists the
pending records that are older than a given age and changes none of them.
-/

namespace Courier

/-- What a sweep found. -/
structure Sweep where
  checkedAt : Reading
  cutoff : Reading
  stale : List Record
deriving Repr

namespace Sweep

/-- The place that speaks for the sweep. -/
def source : Log.Source := ⟨"notify_engine.scheduler.sweeper", some "sweeper"⟩

/-- The most days that a distance in time may have. -/
def greatestDays : Int := 999999999

/-- The most days that can be counted, `2 ^ 31 - 1`. -/
def countableDays : Int := 2147483647

/-- A clock's reading some seconds earlier. -/
def earlier (now : Reading) (seconds : Int) : Except Failure Reading :=
  let days := seconds / 86400
  if countableDays < days then .error .countlessDays
  else if greatestDays < days then .error (.hugeDistance days)
  else match now.face.shift? (-(seconds * 1000000)) with
    | some face => .ok { now with face := face }
    | none => .error .beyondCalendar

/-- The whole seconds in a number of microseconds, counted through a floating point number. -/
def wholeSeconds (micros : Int) : Int :=
  ((Double.ofRatio (micros < 0) micros.natAbs 1000000).truncate?).getD 0

/-- The whole seconds from the creation of a record to a reading. -/
def age (now : Reading) (r : Record) : Except Failure Int :=
  match now.offset with
  | none => .error .placelessClock
  | some ahead => .ok (wholeSeconds ((now.face.micros : Int) - ahead - r.createdAt.micros))

/-- The entry about a stale record. -/
def staleEntry (r : Record) (age : Int) : Log.Entry :=
  source.entry .warning
    ("Notification " ++ r.id ++ " pending for " ++ Value.intText age ++ "s")
    [("event", .text "sweep.stale_pending"), ("notification_id", .text r.id),
     ("recipient_id", .text r.recipient), ("event_type", .text r.eventType),
     ("created_at", .text (Stamp.write r.createdAt)), ("age_seconds", .int age)]

/-- The entry about a sweep that is over. -/
def doneEntry (count : Nat) (cutoff : Instant) : Log.Entry :=
  source.entry .info
    ("Pending sweep complete: " ++ Value.natText count ++ " stale records")
    [("event", .text "sweep.completed"), ("stale_count", .int count),
     ("cutoff", .text (Stamp.write cutoff))]

/-- The entries about stale records, up to the first whose age cannot be told. -/
def staleEntries (now : Reading) : List Record → List Log.Entry × Option Failure
  | [] => ([], none)
  | r :: rest =>
    match age now r with
    | .error f => ([], some f)
    | .ok seconds =>
      let (entries, f) := staleEntries now rest
      (staleEntry r seconds :: entries, f)

/-- A sweep for records older than some seconds, at a clock's reading. -/
def run (s : Store) (now : Reading) (seconds : Int) : Reply Sweep :=
  if seconds ≤ 0 then .quiet (.error (.nonpositiveAge seconds))
  else match earlier now seconds with
    | .error f => .quiet (.error f)
    | .ok cutoff =>
      match cutoff.toInstant? with
      | none => .quiet (.error .beyondCalendar)
      | some instant =>
        let found := s.pendingBefore instant
        match found.answer with
        | .error f => ⟨.error f, found.log⟩
        | .ok stale =>
          match staleEntries now stale with
          | (entries, some f) => ⟨.error f, found.log ++ entries⟩
          | (entries, none) =>
            ⟨.ok ⟨now, cutoff, stale⟩, found.log ++ entries ++ [doneEntry stale.length instant]⟩

end Sweep

end Courier
