import Courier.Record.Status

/-!
# Kinds of event

An event type names the template to use and may be any text. A few types are known: five of them
have a switch in a recipient's preferences, are counted on their own and have a priority above low.
-/

namespace Courier.Event

/-- The status of an application changed. -/
def applicationStatus : String := "application-status"

/-- An interview was arranged. -/
def interviewScheduled : String := "interview-scheduled"

/-- An interview is near. -/
def interviewReminder : String := "interview-reminder"

/-- An offer is made. -/
def offerLetter : String := "offer-letter"

/-- An application is turned down. -/
def rejection : String := "rejection"

/-- The event types that are counted on their own. -/
def tracked : List String :=
  [applicationStatus, interviewScheduled, interviewReminder, offerLetter, rejection]

/-- The switch that each event type obeys. -/
def switches : List (String × String) :=
  [(applicationStatus, "application_status"), (interviewScheduled, "interview_scheduled"),
   (interviewReminder, "interview_reminder"), (offerLetter, "offer_letter"),
   (rejection, "rejection")]

/-- The switch that an event type obeys, if there is one. -/
def switch? (eventType : String) : Option String := switches.lookup eventType

/-- Switches that exist but bar no event type. -/
def inertSwitches : List String := ["marketing_emails", "weekly_digest"]

/-- Every switch there is. -/
def knownSwitches : List String := switches.map Prod.snd ++ inertSwitches

/-- The priority of an event type. -/
def priority (eventType : String) : Priority :=
  if eventType == interviewReminder then .high
  else if tracked.contains eventType then .medium
  else .low

end Courier.Event
