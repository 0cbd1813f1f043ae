import Courier.Event
import Courier.Identifier
import Courier.Failure
import Courier.Interview
import Courier.Settings.Section

/-!
# Requests

A request asks for one notification: whom to notify, of what kind of event, with which values for
the placeholders and which metadata for the record. The requests that a recruiting process makes
all the time are built here from their facts; facts that are absent leave no value behind.
-/

namespace Courier

/-- What a caller asks to be sent. -/
structure Request where
  recipient : String
  eventType : String
  values : Bag := []
  metadata : Bag := []
deriving Repr, Inhabited

namespace Request

/-- The pairs of those names that have a value. -/
def present (facts : List (String × Option Value)) : Bag :=
  facts.filterMap fun f => f.2.map fun v => (.text f.1, v)

/-- An optional text as an optional value. -/
def text (s : Option String) : Option Value := s.map .text

/-- What is common to messages on an application. -/
structure Candidacy where
  recipient : String
  candidate : Option String
  position : Option String
  company : Option String
deriving DecidableEq, Repr, Inhabited

/-- The values for the facts of a candidacy. -/
def Candidacy.facts (c : Candidacy) : List (String × Option Value) :=
  [("candidateName", text c.candidate), ("position", text c.position),
   ("company", text c.company)]

/-- News of an application. -/
structure StatusUpdate extends Candidacy where
  status : Option String
  message : Option String
  nextSteps : Option String := none
  application : Option String := none
deriving DecidableEq, Repr, Inhabited

/-- The request to tell a candidate of a change in an application. -/
def statusUpdate (links : Links) (u : StatusUpdate) : Request where
  recipient := u.recipient
  eventType := Event.applicationStatus
  values := present (u.facts ++
    [("status", text u.status), ("statusMessage", text u.message),
     ("nextSteps", text u.nextSteps), ("dashboardUrl", some (.text links.dashboard)),
     ("applicationId", text u.application)])
  metadata := present
    [("application_id", text u.application), ("drive_id", text u.application)]

/-- The values for date, time, duration and kind of an interview. -/
def interviewFacts (i : Interview) : List (String × Option Value) :=
  [("interviewDate", some (.text i.date)), ("interviewTime", some (.text i.time)),
   ("duration", some (.int i.duration)), ("interviewType", some (.text i.kind))]

/-- The metadata that ties the messages on an interview to the moment of the request. -/
def interviewMetadata (now : Reading) : Except Failure Bag :=
  match now.toInstant? with
  | some a => .ok [(.text "interview_id", .text (Identifier.interview a))]
  | none => .error .beyondCalendar

/-- The request to tell a candidate that an interview was arranged. -/
def interviewScheduled (links : Links) (c : Candidacy) (i : Interview) (now : Reading) :
    Except Failure Request :=
  (interviewMetadata now).map fun metadata =>
    { recipient := c.recipient
      eventType := Event.interviewScheduled
      values := present (c.facts ++ interviewFacts i ++
        [("interviewer", text i.interviewer), ("meetingLink", text i.meetingLink),
         ("location", text i.location), ("calendarUrl", some (.text links.calendar)),
         ("rescheduleUrl", some (.text links.reschedule))])
      metadata := metadata }

/-- The request to remind a candidate of an interview some hours ahead. -/
def interviewReminder (c : Candidacy) (i : Interview) (hours : Option Int) (now : Reading) :
    Except Failure Request :=
  (interviewMetadata now).map fun metadata =>
    { recipient := c.recipient
      eventType := Event.interviewReminder
      values := present (c.facts ++ interviewFacts i ++
        [("meetingLink", text i.meetingLink), ("hoursUntil", hours.map .int)])
      metadata := metadata }

end Request

end Courier
