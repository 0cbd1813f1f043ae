import Courier.Database.Basic

/-!
# Sessions

Every operation on the database runs in a session of its own. When it fails, the session is rolled
back and the log says so. A failure that comes from the driver is logged once more with what was
being attempted, and the caller sees it as a failure of keeping records instead; every other failure
reaches the caller as it is.
-/

namespace Courier

/-- What an operation on the database is after, in the words for the log and for the caller. -/
structure Errand where
  attempt : String
  complaint : String

namespace Errand

/-- The place that speaks for the database. -/
def databaseSource : Log.Source := ⟨"notify_engine.persistence.database", some "database"⟩

/-- The place that speaks for what is kept in the database. -/
def tableSource : Log.Source := ⟨"notify_engine.persistence.repositories", some "database"⟩

/-- The entry about a session that was rolled back. -/
def rolledBack (f : Failure) : Log.Entry :=
  databaseSource.entry .warning ("Database session rolled back due to exception: " ++ f.text)
    [("event", .text "database.session.rolled_back"), ("error_type", .text f.label)]

/-- The entry about an errand that the driver could not carry out. -/
def undone (errand : Errand) (f : Failure) : Log.Entry :=
  { tableSource.entry .error (errand.attempt ++ ": " ++ f.text) with failure := some f.trace }

/-- The failure that the caller sees. -/
def seen (errand : Errand) (f : Failure) : Failure :=
  if f.isDriver then .persistence (errand.complaint ++ ": " ++ f.text) else f

/-- The reply to an errand. -/
def reply {α : Type} (errand : Errand) (answer : Except Failure α) : Reply α :=
  match answer with
  | .ok a => .quiet (.ok a)
  | .error f =>
    ⟨.error (errand.seen f), rolledBack f :: if f.isDriver then [errand.undone f] else []⟩

/-- Appending a record. -/
def append (id : String) : Errand :=
  ⟨"Error recording notification " ++ id, "Failed to record notification"⟩

/-- Whether a row was refused because a column was empty. -/
def isRefusal : Failure → Bool
  | .driver fault _ => fault == .integrity
  | _ => false

/-- The reply to appending a record; a row that the table refuses is a failure of its own kind. -/
def appendReply {α : Type} (id : String) (answer : Except Failure α) : Reply α :=
  match answer with
  | .error f =>
    if isRefusal f then
      ⟨.error (.integrity ("Failed to record notification " ++ id ++ ": " ++ f.text)),
        [rolledBack f]⟩
    else (append id).reply answer
  | .ok _ => (append id).reply answer

/-- Moving a record. -/
def move (id : String) : Errand :=
  ⟨"Error updating notification " ++ id, "Failed to update notification status"⟩

/-- Looking up a record. -/
def find (id : String) : Errand :=
  ⟨"Error retrieving notification " ++ id, "Failed to retrieve notification"⟩

/-- Listing something. -/
def list (what : String) : Errand := ⟨"Error retrieving " ++ what, "Failed to retrieve " ++ what⟩

/-- Looking up somebody's preferences. -/
def preference (recipient : String) : Errand :=
  ⟨"Error retrieving preferences for " ++ recipient, "Failed to retrieve preferences"⟩

/-- Keeping somebody's preferences. -/
def putPreference (recipient : String) : Errand :=
  ⟨"Error storing preferences for " ++ recipient, "Failed to store preferences"⟩

@[simp] theorem reply_ok {α : Type} (errand : Errand) (a : α) :
    errand.reply (.ok a) = .quiet (.ok a) := rfl

end Errand

end Courier
