import Courier.Database.Opening
import Courier.Dispatch.Call
import Courier.Settings.File
import Courier.Template.BuiltIn

/-!
# Depots

A depot is a dispatcher set up as settings ask: with the templates of a file or the built-in ones,
with a database or a store in memory, and with the transport that was chosen. Setting up a depot
may change the disk, even where it fails in the end: directories and a database may have been made.
-/

namespace Courier

/-- A dispatcher with its transport and its database. -/
structure Depot where
  dispatcher : Dispatcher
  transport : Transport
  database : Option OpenDatabase := none

namespace Depot

/-- The place that speaks for depots. -/
def source : Log.Source := ⟨"notify_engine.notifications.builder", some "notification"⟩

/-- The entry about a depot that is ready. -/
def readyEntry (templates : Nat) (database : Option OpenDatabase) : Log.Entry :=
  source.entry .info "Notification service ready"
    [("event", .text "service.ready"), ("template_count", .int templates),
     ("storage", .text (if database.isSome then "sql" else "memory"))]

/-- The templates that settings ask for. -/
def loadTemplates (disk : Disk) (s : Settings) : Reply (List Template) :=
  match s.templates with
  | some path => Template.load disk path
  | none => Template.BuiltIn.load

/-- The database that settings ask for, if they ask for one. -/
def openDatabase (disk : Disk) (s : Settings) : Disk × Reply (Option OpenDatabase) :=
  match Text.given s.storage.databaseUrl with
  | none => (disk, .quiet (.ok none))
  | some url =>
    let (disk, opened) := OpenDatabase.create disk url
    (disk, opened.map some)

/-- The store in a database, or in memory where there is none. -/
def storeOn (database : Option OpenDatabase) : Store :=
  match database with
  | some opened => { backing := .database opened.database }
  | none => .inMemory

/-- The depot with everything at hand but its transport. -/
def assemble (templates : List Template) (database : Option OpenDatabase) (s : Settings)
    (e : Environment) : Reply Depot :=
  match Transport.create s.transport e with
  | .error fault => .quiet (.error (.setup fault))
  | .ok transport =>
    let chosen := [transport.chosenEntry]
    match Dispatcher.create (storeOn database) s.links (.real s.transport.timeout)
        s.history.defaultLimit with
    | .error f => ⟨.error f, chosen⟩
    | .ok d =>
      let (d, registered) := d.register templates
      ⟨.ok ⟨d, transport, database⟩, chosen ++ registered ++ [readyEntry templates.length database]⟩

/-- The depot that settings ask for. -/
def create (disk : Disk) (s : Settings) (e : Environment) : Disk × Reply Depot :=
  let loaded := loadTemplates disk s
  match loaded.answer with
  | .error f => (disk, ⟨.error f, loaded.log⟩)
  | .ok templates =>
    let (disk, opened) := openDatabase disk s
    match opened.answer with
    | .error f => (disk, ⟨.error f, loaded.log ++ opened.log⟩)
    | .ok database =>
      let made := assemble templates database s e
      (disk, ⟨made.answer, loaded.log ++ opened.log ++ made.log⟩)

/-- The depot after a send. -/
def send (d : Depot) (network : Network) (q : Request) (s : Surroundings)
    (later : Except Failure Reading := s.clock) : Depot × Ending × List Log.Entry :=
  let (dispatcher, ending, log) := d.dispatcher.send d.transport network q s later
  ({ d with dispatcher := dispatcher }, ending, log)

/-- The disk with all that the depot keeps in a file. -/
def saved (d : Depot) (disk : Disk) : Disk :=
  match d.database, d.dispatcher.store.backing with
  | some opened, .database now => opened.saved disk now
  | _, _ => disk

/-- The entries about a depot that is closed. -/
def closingEntries (d : Depot) : List Log.Entry :=
  if d.database.isSome then [Url.closingEntry] else []

end Depot

end Courier
