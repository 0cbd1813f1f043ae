import Courier.Form.Basic
import Courier.Json.Basic

/-!
# Receipts

What the sender of a notification gets back, whatever happens: whether the transport took the
notification over, the identifier of its record if one was made, and else what went wrong.
-/

namespace Courier

/-- The answer to a request to send. -/
structure Receipt where
  success : Bool
  notification : Option String := none
  error : Option String := none
deriving DecidableEq, Repr, Inhabited

namespace Receipt

/-- The receipt that a form describes. -/
def ofValue (v : Value) : Checked Receipt :=
  (Form.ofValue "SendResult" v).andThen fun form =>
    Receipt.mk <$> Form.required form "success" Form.boolean <*>
      Form.field form "notification_id" none (Form.optional Form.text) <*>
      Form.field form "error" none (Form.optional Form.text)

/-- The receipt as a document. -/
def toJson (r : Receipt) : Json :=
  .object [("success", .bool r.success), ("notification_id", .ofText? r.notification),
    ("error", .ofText? r.error)]

end Receipt

end Courier
