import Courier.Database.Session
import Courier.Preference.Shelf

/-!
# Stores

A store keeps records and preferences, either in memory or in a database. Both ways answer alike,
except that a database keeps the metadata of records as documents, puts what it refuses into the
log, and may fail for reasons of its own.

Every operation yields the store afterwards and a reply. Where the reply is a failure, the store is
the one from before.
-/

namespace Courier

/-- Where records and preferences are kept. -/
inductive Backing where
  | memory (history : History) (preferences : Shelf)
  | database (db : Database)
deriving Repr, Inhabited

/-- Failures that befall operations on a store before they have done anything. -/
structure Faults where
  append : Option Failure := none
  move : Option Failure := none
  preference : Option Failure := none
deriving Repr, Inhabited

/-- A store of records and preferences. -/
structure Store where
  backing : Backing := .memory {} []
  faults : Faults := {}
deriving Repr, Inhabited

namespace Store

variable {α : Type}

/-- A store in memory, empty. -/
def inMemory : Store := ⟨.memory {} [], {}⟩

/-- A store in a database, empty. -/
def inDatabase : Store := ⟨.database {}, {}⟩

/-- Whether a store lies in a database. -/
def isDatabase (s : Store) : Bool :=
  match s.backing with
  | .database _ => true
  | .memory .. => false

/-- The answer with its backing, as a store and an answer; without an answer the store stays. -/
def settle (s : Store) (answer : Except Failure (Backing × α)) : Store × Except Failure α :=
  match answer with
  | .ok (backing, a) => ({ s with backing := backing }, .ok a)
  | .error f => (s, .error f)

/-- The store with a record appended, and the record as it is kept. -/
def append (s : Store) (r : Record) : Store × Reply Record :=
  match s.faults.append with
  | some f => (s, .quiet (.error f))
  | none =>
    match s.backing with
    | .memory h p =>
      let (s, answer) := s.settle ((h.append r).map fun h => (Backing.memory h p, r))
      (s, .quiet answer)
    | .database db =>
      let (s, answer) := s.settle ((db.append r).map fun a => (Backing.database a.1, a.2))
      (s, Errand.appendReply r.id answer)

/-- The store after a request to move a record, with the record as it is now. -/
def move (s : Store) (id : String) (m : Record.Move) : Store × Reply Record :=
  match s.faults.move with
  | some f => (s, .quiet (.error f))
  | none =>
    match s.backing with
    | .memory h p =>
      let (s, answer) := s.settle ((h.move id m).map fun a => (Backing.memory a.1 p, a.2))
      (s, .quiet answer)
    | .database db =>
      let (s, answer) := s.settle ((db.move id m).map fun a => (Backing.database a.1, a.2))
      (s, (Errand.move id).reply answer)

/-- The record with an identifier. -/
def find? (s : Store) (id : String) : Reply (Option Record) :=
  match s.backing with
  | .memory h _ => .quiet (.ok (h.find? id))
  | .database db => (Errand.find id).reply (db.find? id)

/-- The first records of a recipient with the latest first. -/
def query (s : Store) (recipient : String) (limit : Int) : Reply (List Record) :=
  if limit < 0 then .quiet (.error (.negativeLimit limit))
  else match s.backing with
    | .memory h _ => .quiet (h.query recipient limit)
    | .database db =>
      (Errand.list ("history for " ++ recipient)).reply (db.query recipient limit)

/-- Every record, or every record of a recipient, in the order in which they were appended. -/
def all (s : Store) (recipient : Option String := none) : Reply (List Record) :=
  match s.backing with
  | .memory h _ => .quiet (.ok (h.all recipient))
  | .database db => (Errand.list "notifications").reply (db.all recipient)

/-- The records still pending that were created before an instant. -/
def pendingBefore (s : Store) (cutoff : Instant) : Reply (List Record) :=
  match s.backing with
  | .memory h _ => .quiet (.ok (h.pendingBefore cutoff))
  | .database db => (Errand.list "pending notifications").reply (db.pendingBefore cutoff)

/-- What is kept for a recipient. -/
def preference? (s : Store) (recipient : String) : Reply (Option Preference) :=
  match s.faults.preference with
  | some f => .quiet (.error f)
  | none =>
    match s.backing with
    | .memory _ p => .quiet (.ok (p.get? recipient))
    | .database db => (Errand.preference recipient).reply (db.preference? recipient)

/-- The store with preferences kept. -/
def putPreference (s : Store) (p : Preference) : Store × Reply Unit :=
  match s.backing with
  | .memory h shelf => ({ s with backing := .memory h (shelf.put p) }, .quiet (.ok ()))
  | .database db =>
    let (s, answer) := s.settle ((db.putPreference p).map fun db => (Backing.database db, ()))
    (s, (Errand.putPreference p.recipient).reply answer)

/-- Everybody's preferences: in memory in the order in which their recipients were first seen, in a
database by recipient. -/
def allPreferences (s : Store) : Reply (List Preference) :=
  match s.backing with
  | .memory _ shelf => .quiet (.ok shelf)
  | .database db => (Errand.list "preferences").reply db.allPreferences

@[simp] theorem settle_error (s : Store) (f : Failure) :
    s.settle (.error f : Except Failure (Backing × α)) = (s, .error f) := rfl

end Store

end Courier
