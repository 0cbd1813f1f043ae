import Courier.Command.Run
import Std.Time.DateTime.Timestamp

/-!
# The program

The program reads what a command line concerns from the disk, lets `Command.run` decide, shows what
came of it and writes databases back. A watch over pending records goes on until the program is
ended from outside.
-/

namespace Courier.Program

/-- The instant at hand. -/
def now : IO Instant := do
  let time ← Std.Time.Timestamp.now
  let micros := time.toNanosecondsSinceUnixEpoch.val / 1000
  return (Instant.ofMicros? (Instant.epoch + micros)).getD default

/-- The variables of the environment that the program goes by. -/
def variableNames : List String :=
  ["SMTP_HOST", "SMTP_PORT", "SMTP_USER", "SMTP_PASS", "SMTP_SENDER_NAME", "SMTP_SENDER_EMAIL",
   "NOTIFY_API_URL", "NOTIFY_API_KEY", "LOG_LEVEL", "DATABASE_URL", "ENVIRONMENT"]

/-- The variables of the environment. -/
def environment : IO Environment.Variables := do
  let values ← variableNames.mapM fun name => return (name, ← IO.getEnv name)
  return fun name => (values.lookup name).join

/-- What the bytes of a file are on a disk. -/
def itemOf (bytes : ByteArray) : Disk.Item :=
  match (String.fromUTF8? bytes).bind Database.ofFileText? with
  | some db => .database db
  | none => .file bytes.toList

/-- The disk with what lies at a path. -/
def inspect (disk : Disk) (path : Path) : IO Disk := do
  if path.names.isEmpty then return disk
  try
    return disk.withItem path (itemOf (← IO.FS.readBinFile path.text))
  catch
    | .inappropriateType .. => return disk.withItem path .directory
    | _ => return disk

/-- The file of the database that an address names. -/
def databaseFile? (url : String) : Option Path :=
  (Address.check url).toOption.bind Address.file?

/-- The paths that settings name. -/
def pathsOf (s : Settings) : List Path :=
  s.templates.toList ++
    match s.storage.databaseUrl.bind databaseFile? with
    | some file => file.parents ++ [file]
    | none => []

/-- What a command line concerns on the disk. -/
def survey (words : List String) (get : Environment.Variables) : IO Disk := do
  match Invocation.read words with
  | .error _ => return {}
  | .ok i =>
    let disk ← inspect {} i.config
    match (Settings.load disk (some i.config) get).answer with
    | .error _ => return disk
    | .ok (s, _) => (pathsOf s).foldlM inspect disk

/-- Write back every database of a disk. -/
def keep (disk : Disk) : IO Unit :=
  disk.items.forM fun
    | (path, .database db) => do
      IO.FS.createDirAll path.parent.text
      IO.FS.writeFile path.text db.fileText
    | _ => return

/-- The line of an entry in the log. -/
def logLine? (handler : Log.Handler) (time : Instant) (e : Log.Entry) : Option String :=
  let stamp := match handler.form with
    | .document => Log.documentTime time
    | .pairs => Log.lineTime time
  if handler.admits e then (handler.line? stamp [] e).toOption else none

/-- Show an event of a run. -/
def present (handler : Option Log.Handler) (time : Instant) : Command.Event → IO Unit
  | .log e => ((handler.bind fun h => logLine? h time e).forM fun line => IO.println line)
  | .warning w => IO.eprintln ("UserWarning: " ++ w.message)
  | .result s => IO.print s
  | .notice s => IO.eprint s

/-- Carry out a command line once. -/
def once (words : List String) : IO Command.Outcome := do
  let start ← IO.monoMsNow
  let get ← environment
  let time ← now
  let draws := (← IO.getRandomBytes Identifier.suffixLength.toUSize).toList.map UInt8.toNat
  let draw := Double.ofRatio false (← IO.rand 0 (Nat.pow 2 30 - 1)) (Nat.pow 2 30)
  let outcome := Command.run {
    disk := ← survey words get
    environment := get
    network := { Network.silent with draw := draw }
    surroundings :=
      ⟨.ok (.ofInstant time), fun _ => .ok (Identifier.notification time draws)⟩ } words
  outcome.events.forM (present outcome.handler time)
  keep outcome.disk
  if outcome.isClosed then
    let uptime := Double.ofRatio false ((← IO.monoMsNow) - start) 1000
    present outcome.handler time (.log (Command.stoppedEntry uptime))
  return outcome

/-- Carry out a command line again and again, at an interval of seconds. -/
partial def watch (words : List String) (seconds : Int) : IO Unit := do
  IO.sleep (seconds.toNat * 1000).toUInt32
  let _ ← once words
  watch words seconds

end Courier.Program

/-- The program. -/
def main (words : List String) : IO UInt32 := do
  let outcome ← Courier.Program.once words
  if let some w := outcome.watch then Courier.Program.watch words w.interval
  return outcome.exit.toUInt32
