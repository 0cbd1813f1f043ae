import Courier.Form.Basic
import Courier.Json.Basic

/-!
# Interviews

The facts of an interview that the messages about it tell, in the words in which they are told.
Only the duration is a number, of minutes.
-/

namespace Courier

/-- The facts of an interview. -/
structure Interview where
  date : String
  time : String
  duration : Int
  kind : String
  interviewer : Option String := none
  meetingLink : Option String := none
  location : Option String := none
deriving DecidableEq, Repr, Inhabited

namespace Interview

/-- The interview that a form describes. -/
def ofValue (v : Value) : Checked Interview :=
  (Form.ofValue "InterviewDetails" v).andThen fun form =>
    Interview.mk <$> Form.required form "date" Form.text <*> Form.required form "time" Form.text <*>
      Form.required form "duration" (Form.integerWithin [.above 0]) <*>
      Form.required form "type" Form.text <*>
      Form.field form "interviewer" none (Form.optional Form.text) <*>
      Form.field form "meeting_link" none (Form.optional Form.text) <*>
      Form.field form "location" none (Form.optional Form.text)

/-- The interview as a document. -/
def toJson (i : Interview) : Json :=
  .object [("date", .text i.date), ("time", .text i.time), ("duration", .int i.duration),
    ("type", .text i.kind), ("interviewer", .ofText? i.interviewer),
    ("meeting_link", .ofText? i.meetingLink), ("location", .ofText? i.location)]

end Interview

end Courier
