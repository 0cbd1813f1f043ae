import Courier.Record.Basic
import Courier.Stats.Rate

/-!
# Statistics

Counts over records: all of them, those of each status that is counted on its own, and those of
each tracked event type. Delivered records are counted among all and in the rate, which tells how
many of the attempts reached the transport.
-/

namespace Courier

/-- Counts over records. -/
structure Stats where
  total : Int := 0
  sent : Int := 0
  failed : Int := 0
  pending : Int := 0
  byType : List (String × Int) := Event.tracked.map fun t => (t, 0)
  deliveryRate : Double := .zero
deriving DecidableEq, Repr, Inhabited

namespace Stats

/-- Counts over the records seen so far, among them those that were delivered. -/
structure Tally extends Stats where
  delivered : Int := 0

namespace Tally

/-- One more record of a status. -/
def addStatus (t : Tally) : Status → Tally
  | .sent => { t with sent := t.sent + 1 }
  | .failed => { t with failed := t.failed + 1 }
  | .pending => { t with pending := t.pending + 1 }
  | .delivered => { t with delivered := t.delivered + 1 }

/-- One more record of an event type, which only tells if the type is tracked. -/
def addType (t : Tally) (eventType : String) : Tally :=
  if Event.tracked.contains eventType then
    { t with byType := t.byType.map fun c => if c.1 == eventType then (c.1, c.2 + 1) else c }
  else t

/-- One more record. -/
def add (t : Tally) (r : Record) : Tally :=
  ({ t with total := t.total + 1 }.addStatus r.status).addType r.eventType

end Tally

/-- The counts over records. -/
def ofRecords (records : List Record) : Stats :=
  let t : Tally := records.foldl Tally.add {}
  { t.toStats with deliveryRate := (Rate.percent? (t.sent + t.delivered) t.total).getD .zero }

/-- The counts that a form describes. -/
def ofValue (v : Value) : Checked Stats :=
  (Form.ofValue "NotificationStats" v).andThen fun form =>
    Stats.mk <$> Form.field form "total" 0 Form.integer <*>
      Form.field form "sent" 0 Form.integer <*> Form.field form "failed" 0 Form.integer <*>
      Form.field form "pending" 0 Form.integer <*>
      Form.field form "by_type" (Event.tracked.map fun t => (t, 0))
        (Form.entries Form.integer) <*>
      Form.field form "delivery_rate" .zero Form.number

/-- The counts as a document. -/
def toJson (s : Stats) : Json :=
  .object [("total", .int s.total), ("sent", .int s.sent), ("failed", .int s.failed),
    ("pending", .int s.pending), ("by_type", .object (s.byType.map fun t => (t.1, .int t.2))),
    ("delivery_rate", .float s.deliveryRate)]

end Stats

end Courier
