import Courier.Database.Address
import Courier.Disk

/-!
# Opening databases

A database in a file is made where there is none, together with the directories on the way to it;
a file that holds something else is left alone. The tables are made where they are missing.
-/

namespace Courier

/-- A database that is open. -/
structure OpenDatabase where
  url : String
  /-- The file that holds the database, if it is not in memory. -/
  file : Option Path
  database : Database
deriving Repr, Inhabited

namespace OpenDatabase

/-- The failure of an address that is empty. -/
def noAddress : Failure := .connection "Database URL must be a non-empty string"

/-- The failure to set a database up. -/
def notSetUp (reason : String) : Failure :=
  .connection ("Failed to initialize database: " ++ reason)

/-- The failure to reach a database. -/
def notReached (reason : String) : Failure :=
  .connection ("Failed to validate database connection: " ++ reason)

/-- The reply to a database that could not be set up. -/
def setUpReply (log : List Log.Entry) (kind reason : String) : Reply OpenDatabase :=
  let f := notSetUp reason
  let entry :=
    { Errand.databaseSource.entry .error f.text with failure := some (kind ++ ": " ++ reason) }
  ⟨.error f, log ++ [entry]⟩

/-- The directory that is made for a database before it is opened. -/
def directory? (url : String) : Option Path :=
  (Url.file? url).map fun name => (Path.ofText name).parent

/-- The database in a file. -/
def fileOn (d : Disk) (path : Path) : Except String Database :=
  match d.find path with
  | .ok (.database db) => .ok db
  | .ok (.file []) => .ok Database.withoutTables
  | .ok (.file _) => .error "(sqlite3.DatabaseError) file is not a database"
  | .ok .directory => .error "(sqlite3.OperationalError) unable to open database file"
  | .error .missing =>
    if d.hasDirectory path.parent then .ok Database.withoutTables
    else .error "(sqlite3.OperationalError) unable to open database file"
  | .error _ => .error "(sqlite3.OperationalError) unable to open database file"

/-- The database of an address, opened with the directory for it in place. -/
def connect (d : Disk) (url : String) (log : List Log.Entry) : Disk × Reply OpenDatabase :=
  match Address.check url with
  | .error fault => (d, setUpReply log fault.label fault.message)
  | .ok a =>
    match a.file? with
    | none => (d, ⟨.ok ⟨url, none, {}⟩, log ++ Url.connectedEntries url⟩)
    | some path =>
      match fileOn d path with
      | .error reason => (d, ⟨.error (notReached reason), log⟩)
      | .ok db =>
        (d.write path (.database db.withTables),
          ⟨.ok ⟨url, some path, db.withTables⟩, log ++ Url.connectedEntries url⟩)

/-- The database of an address. -/
def create (d : Disk) (url : String) : Disk × Reply OpenDatabase :=
  if url.isEmpty then (d, .quiet (.error noAddress))
  else
    let opening := [Url.openingEntry url]
    match directory? url with
    | none => connect d url opening
    | some directory =>
      if d.has directory then connect d url opening
      else
        let log := opening ++ [Url.directoryEntry directory.text]
        let made := d.withDirectories directory
        if made.hasDirectory directory then connect made url log
        else
          let reason := Disk.Fault.notADirectory.message directory
          (made, setUpReply log "NotADirectoryError" reason)

/-- The disk with what a database holds now. -/
def saved (o : OpenDatabase) (d : Disk) (now : Database) : Disk :=
  match o.file with
  | some path => d.write path (.database now)
  | none => d

end OpenDatabase

end Courier
