import Courier.Database.Row
import Courier.History.Query

/-!
# The database

A database holds a table of records and a table of preferences. Either table may be missing, and
then every statement on it fails. A statement that fails changes nothing: each operation yields a
new database only together with its answer.

Rows stay in the order in which they were inserted, and that order is what a sequence number
decides where times are equal.
-/

namespace Courier

/-- The two tables. -/
structure Database where
  records : Option (List Row) := some []
  preferences : Option (List PreferenceRow) := some []
deriving Repr, Inhabited

namespace Database

/-! ## Failures of statements -/

/-- A statement on a table that is missing. -/
def noSuchTable (name : String) : Failure :=
  .driver .operational ("(sqlite3.OperationalError) no such table: " ++ name)

/-- A row that leaves a column empty that has to be filled. -/
def notNull (column : String) : Failure :=
  .driver .integrity ("(sqlite3.IntegrityError) NOT NULL constraint failed: notifications." ++
    column)

/-- A number in a document that has too many digits to be written. -/
def unwritableNumber : Failure :=
  .driver .statement ("(builtins.ValueError) " ++ TextFault.tooManyDigits.message)

/-- The rows of the table of records. -/
def rows (db : Database) : Except Failure (List Row) :=
  match db.records with
  | some rows => .ok rows
  | none => .error (noSuchTable "notifications")

/-- The rows of the table of preferences. -/
def preferenceRows (db : Database) : Except Failure (List PreferenceRow) :=
  match db.preferences with
  | some rows => .ok rows
  | none => .error (noSuchTable "preferences")

/-- The database with its missing tables made. -/
def withTables (db : Database) : Database :=
  ⟨some (db.records.getD []), some (db.preferences.getD [])⟩

/-- The database without its tables. -/
def withoutTables : Database := ⟨none, none⟩

/-! ## Writing records -/

mutual

/-- Whether every number of a document can be written. -/
def isWritable : Json → Bool
  | .int n => n.natAbs < Nat.pow 10 digitLimit
  | .list items => areWritable items
  | .object members => membersAreWritable members
  | _ => true

/-- Whether every number of several documents can be written. -/
def areWritable : List Json → Bool
  | [] => true
  | j :: js => isWritable j && areWritable js

/-- Whether every number in the members of an object can be written. -/
def membersAreWritable : List (String × Json) → Bool
  | [] => true
  | (_, j) :: ms => isWritable j && membersAreWritable ms

end

/-- A row that the table takes. -/
def writable (row : Row) : Except Failure Row :=
  if membersAreWritable row.metadata then .ok row else .error unwritableNumber

/-- The database with a row inserted, and the record read back from it. -/
def insert (db : Database) (rows : List Row) (row : Row) : Except Failure (Database × Record) := do
  let row ← writable row
  let kept ← row.toRecord
  return ({ db with records := some (rows ++ [row]) }, kept)

/-- The database with a record appended, and the record as it is kept. -/
def append (db : Database) (r : Record) : Except Failure (Database × Record) := do
  let rows ← db.rows
  if rows.any fun row => row.id == r.id then throw (.duplicate r.id)
  let row ← Row.ofRecord r
  db.insert rows row

/-- The fields of a record that can be left empty on the way to the table. -/
inductive Blank where
  | required (column : String)
  | identifier
  | choice
  | htmlBody
  | textBody
  | sentAt
  | deliveredAt
  | error
  | metadata
deriving DecidableEq, Repr

/-- What is left empty in a column. -/
def Blank.ofColumn : String → Blank
  | "id" => identifier
  | "priority" | "status" => choice
  | "body" => htmlBody
  | "text_body" => textBody
  | "sent_at" => sentAt
  | "delivered_at" => deliveredAt
  | "error" => error
  | "metadata" => metadata
  | column => required column

/-- The row of a record with a field left empty. Bodies and metadata have a value to fall back
on, and some fields may be empty; the table refuses the rest. -/
def blankRow (r : Record) (blank : Blank) : Except Failure Row :=
  match blank with
  | .choice => .error .namelessChoice
  | _ => do
    let row ← Row.ofRecord r
    match blank with
    | .required column => throw (notNull column)
    | .identifier => throw (notNull "id")
    | .choice => throw .namelessChoice
    | .htmlBody => return { row with htmlBody := "" }
    | .textBody => return { row with textBody := "" }
    | .sentAt => return { row with sentAt := none }
    | .deliveredAt => return { row with deliveredAt := none }
    | .error => return { row with error := none }
    | .metadata => return { row with metadata := [] }

/-- The database with a record appended of which one field was left empty. -/
def appendBlank (db : Database) (r : Record) (blank : Blank) :
    Except Failure (Database × Record) := do
  let rows ← db.rows
  if blank != .identifier && rows.any fun row => row.id == r.id then throw (.duplicate r.id)
  let row ← blankRow r blank
  db.insert rows row

/-- The rows with one of them rewritten. -/
def rewritten (rows : List Row) (new : Row) : List Row :=
  rows.map fun row => if row.id == new.id then new else row

/-- The database after a request to move a record, with the record as it is now. -/
def move (db : Database) (id : String) (m : Record.Move) : Except Failure (Database × Record) := do
  let rows ← db.rows
  match rows.find? fun row => row.id == id with
  | none => throw (.notFound id)
  | some row =>
    let r ← row.toRecord
    let new ← r.after m
    let row ← Row.ofRecord new
    return ({ db with records := some (rewritten rows row) }, new)

/-! ## Reading records -/

/-- The record with an identifier. -/
def find? (db : Database) (id : String) : Except Failure (Option Record) := do
  let rows ← db.rows
  match rows.find? fun row => row.id == id with
  | none => return none
  | some row => return some (← row.toRecord)

/-- Whether a row belongs to a recipient; without a recipient every row does. -/
def concerns (recipient : Option String) (row : Row) : Bool :=
  match recipient with
  | none => true
  | some id => row.recipient == id

/-- Every record, or every record of a recipient, in the order in which they were appended. -/
def all (db : Database) (recipient : Option String) : Except Failure (List Record) := do
  let rows ← db.rows
  (rows.filter (concerns recipient)).mapM Row.toRecord

/-- Whether one row may stand before another in a list with the latest first. -/
def notEarlier (a b : Row) : Bool := decide (b.createdAt ≤ a.createdAt)

/-- Rows by creation, the latest first; of equals the last comes first. -/
def newestFirst (rows : List Row) : List Row := rows.reverse.mergeSort notEarlier

/-- The greatest number of the database, `2 ^ 63 - 1`. -/
def greatestInteger : Int := 9223372036854775807

/-- The first records of a recipient with the latest first. -/
def query (db : Database) (recipient : String) (limit : Int) : Except Failure (List Record) := do
  let rows ← db.rows
  if greatestInteger < limit then throw .hugeLimit
  ((newestFirst (rows.filter (concerns (some recipient)))).take limit.toNat).mapM Row.toRecord

/-- Whether a row is pending and its stamp of creation comes before another stamp. -/
def isStale (stamp : String) (row : Row) : Bool :=
  row.status == Status.pending.name && decide (row.createdAt < stamp)

/-- The records still pending that were created before an instant. -/
def pendingBefore (db : Database) (cutoff : Instant) : Except Failure (List Record) := do
  let rows ← db.rows
  (rows.filter (isStale (Stamp.writeMicros cutoff))).mapM Row.toRecord

/-! ## Preferences -/

/-- What is kept for a recipient. -/
def preference? (db : Database) (recipient : String) : Except Failure (Option Preference) := do
  let rows ← db.preferenceRows
  match PreferenceRow.find? rows recipient with
  | none => return none
  | some row => return some (← row.toPreference)

/-- The database with preferences kept. -/
def putPreference (db : Database) (p : Preference) : Except Failure Database := do
  let rows ← db.preferenceRows
  return { db with preferences := some (PreferenceRow.put rows p) }

/-- Everybody's preferences, by recipient. -/
def allPreferences (db : Database) : Except Failure (List Preference) := do
  let rows ← db.preferenceRows
  (rows.mergeSort fun a b => decide (a.recipient ≤ b.recipient)).mapM PreferenceRow.toPreference

end Database

end Courier
