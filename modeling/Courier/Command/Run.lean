import Courier.Command.Assignment
import Courier.Command.Usage
import Courier.Depot
import Courier.Json.Text
import Courier.Scheduler
import Courier.Sweep

/-!
# Runs

A run carries out a command line: it loads the settings, sets up the log and a depot, does what the
command asks for, and closes the depot. What it prints and writes to the log are its events, in
order. It ends with an exit status, which tells settings that are no good (1), arguments that are no
good (2) and other failures (1) from success (0).
-/

namespace Courier.Command

/-- Something that a run shows. -/
inductive Event where
  | log (e : Log.Entry)
  | warning (w : SettingsWarning)
  /-- A text for the reader of the results. -/
  | result (text : String)
  /-- A text for whoever watches over the program. -/
  | notice (text : String)

/-- How a watch over pending records comes to its end. -/
inductive Ending where
  /-- The scheduler stops by itself. -/
  | done
  /-- The system asks the program to end. -/
  | signal
  /-- The user interrupts the program. -/
  | interrupt
deriving DecidableEq, Repr

/-- What the scheduler of a watch does in the background. -/
structure Background where
  /-- What the clock says at each run of the job, until the watch is over. -/
  runs : List (Except Failure Reading)
  /-- What the scheduler itself writes about a run that failed. -/
  complaint : Failure → List Log.Entry := fun _ => []
  /-- Whether the failure of a run leaves the scheduler, and ends the program. -/
  letsThrough : Failure → Bool := fun _ => false

/-- A watch over pending records. -/
structure Watch where
  /-- The seconds between two sweeps. -/
  interval : Int
  /-- The identifiers of the records that the latest report calls stale. -/
  stale : Option (List String) := none
  /-- The shutdowns that were asked for, each with whether it waits for the job. -/
  shutdowns : List Bool := []
deriving DecidableEq, Repr

/-- The signals that end a watch: an interrupt and a request to terminate. -/
def Watch.signals : List Nat := [2, 15]

/-- What the log is set up with. -/
structure LogChoice where
  level : String
  form : String
  environment : String
deriving DecidableEq, Repr

/-- What a run finds around it. -/
structure Scene where
  disk : Disk := {}
  environment : Environment.Variables
  network : Network := Network.silent
  surroundings : Surroundings
  /-- What the clock says after a transport call. -/
  later : Except Failure Reading := surroundings.clock
  /-- What befalls the program while the depot is set up. -/
  mishap : Option Mishap := none
  background : Background := { runs := [surroundings.clock] }
  ending : Ending := .done

/-- What comes of a run. -/
structure Outcome where
  exit : Nat
  events : List Event := []
  /-- What the log was to be set up with, if the run came that far. -/
  logChoice : Option LogChoice := none
  /-- What decides about the lines of the log, once it is set up. -/
  handler : Option Log.Handler := none
  watch : Option Watch := none
  /-- Whether a depot was set up, and closed again. -/
  isClosed : Bool := false
  disk : Disk

/-! ## Log -/

/-- The place that speaks for runs. -/
def source : Log.Source := ⟨"notify_engine.main", some "cli"⟩

/-- The entry about a run that begins. -/
def startingEntry (i : Invocation) (level : String) : Log.Entry :=
  source.entry .info "Notification engine starting"
    [("event", .text "service.starting"), ("command", .text i.command.kind.name),
     ("config_path", .text i.config.text), ("log_level", .text level)]

/-- The entry about a failure that ends a run. -/
def fatalEntry (f : Failure) : Log.Entry :=
  { source.entry .critical "Fatal error"
      [("event", .text "service.failed"), ("error_type", .text f.label),
       ("error", .text f.text)] with
    failure := some f.trace }

/-- The entry about a run that is over, with the seconds it took. -/
def stoppedEntry (uptime : Double) : Log.Entry :=
  source.entry .info "Notification engine stopped"
    [("event", .text "service.stopping"), ("uptime_seconds", .float uptime)]

/-- The entry about a signal. -/
def signalEntry (signal : Nat) : Log.Entry :=
  source.entry .info ("Received signal " ++ Value.natText signal ++ ", shutting down")
    [("event", .text "service.signal_received"), ("signal", .int signal)]

/-- The entry about a watch that has begun. -/
def watchingEntry : Log.Entry :=
  source.entry .info "Sweeper started. Press Ctrl+C to stop"
    [("event", .text "service.daemon_mode.started")]

/-! ## Levels -/

/-- What the log is told in place of a level when nobody has chosen one. It is the name of the usual
choice and not the level itself, so the log refuses it. -/
def unchosenLevel : String := "LogLevel.INFO"

/-- The level that the log is set up with: chosen on the command line, or in the environment, or in
the file. -/
def levelText (i : Invocation) (s : Settings) (e : Environment) : String :=
  match i.level, Text.given e.logLevel, s.log.level with
  | some level, _, _ => level
  | none, some level, _ => level
  | none, none, some level => level.name
  | none, none, none => unchosenLevel

/-- What the log is set up with, where a level that nobody chose is shown as the usual one. -/
def logChoice (i : Invocation) (s : Settings) (e : Environment) (get : Environment.Variables) :
    LogChoice :=
  let level := levelText i s e
  { level := if level == unchosenLevel then s.log.levelInForce.name else level
    form := s.log.formatInForce.name
    environment := (get "ENVIRONMENT").getD "local" }

/-! ## Commands -/

/-- What a command comes to: the depot afterwards, what was shown, and the exit status or why there
is none. -/
structure Deed where
  depot : Depot
  events : List Event := []
  answer : Except Failure Nat
  watch : Option Watch := none

/-- A document as a result. -/
def printed (j : Json) : Event := .result (j.page ++ "\n")

/-- The deed of showing what a reply answers. -/
def answered {α : Type} (d : Depot) (reply : Reply α) (document : α → Except Failure Json) : Deed :=
  match reply.answer.bind document with
  | .ok j => { depot := d, events := reply.log.map .log ++ [printed j], answer := .ok 0 }
  | .error f => { depot := d, events := reply.log.map .log, answer := .error f }

/-- The preferences of a recipient of whom only an address is known. -/
def preferenceFor (recipient address : String) : Except Failure Preference :=
  match Preference.ofValue (.dict [(.text "recipient_id", .text recipient),
      (.text "email", .text address)]) with
  | .ok p => .ok p
  | .wrong issues => .error (.invalid "Preference" issues)

/-- Keep the address of a recipient of whom nothing is known. -/
def keepAddress (d : Depot) (recipient : String) (address : Option String) : Depot × Reply Unit :=
  match Text.given address with
  | none => (d, .quiet (.ok ()))
  | some address =>
    let known := d.dispatcher.store.preference? recipient
    match known.answer with
    | .error f => (d, ⟨.error f, known.log⟩)
    | .ok (some _) => (d, ⟨.ok (), known.log⟩)
    | .ok none =>
      match preferenceFor recipient address with
      | .error f => (d, ⟨.error f, known.log⟩)
      | .ok p =>
        let (dispatcher, kept) := d.dispatcher.putPreference p
        ({ d with dispatcher := dispatcher }, ⟨kept.answer, known.log ++ kept.log⟩)

/-- The request that the arguments of a command make. -/
def requestOf (recipient eventType : String) (values metadata : List String) :
    Except Failure Request := do
  let values ← Assignment.bag "--var" values
  let metadata ← Assignment.bag "--meta" metadata
  return ⟨recipient, eventType, values, metadata⟩

/-- Send one notification. -/
def deliver (scene : Scene) (d : Depot) (q : Request) (address : Option String) : Deed :=
  let (d, kept) := keepAddress d q.recipient address
  let before := kept.log.map Event.log
  match kept.answer with
  | .error f => { depot := d, events := before, answer := .error f }
  | .ok _ =>
    let (d, ending, log) := d.send scene.network q scene.surroundings scene.later
    let events := before ++ log.map .log
    match ending with
    | .receipt r =>
      { depot := d, events := events ++ [printed r.toJson]
        answer := .ok (if r.success then 0 else 1) }
    | .stopped f => { depot := d, events := events, answer := .error f }
    | .cancelled => { depot := d, events := events, answer := .ok 1 }

/-- The records of a recipient as a document. -/
def recordsJson (records : List Record) : Except Failure Json :=
  ((records.mapM Record.toJson?).map Json.list).mapError .unwritable

/-- List what a recipient was sent. -/
def list (d : Depot) (recipient : String) (limit : Option Int) : Deed :=
  if limit.any (· < 0) then
    { depot := d, events := [.notice "--limit must be non-negative\n"], answer := .ok 2 }
  else answered d (d.dispatcher.history recipient limit) recordsJson

/-- What the runs of a job come to: the entries of all, the latest report, and the failure that
leaves the scheduler. -/
structure Runs (α : Type) where
  log : List Log.Entry := []
  report : Option α := none
  failure : Option Failure := none

/-- What the runs of a job in the background come to. None follows one whose failure leaves the
scheduler. -/
def Background.carried {α : Type} (b : Background) (job : Except Failure Reading → Reply α) :
    List (Except Failure Reading) → Runs α
  | [] => {}
  | clock :: rest =>
    let now := job clock
    match now.answer with
    | .ok report =>
      let later := b.carried job rest
      { later with log := now.log ++ later.log, report := later.report.or (some report) }
    | .error f =>
      if b.letsThrough f then { log := now.log, failure := some f }
      else
        let later := b.carried job rest
        { later with log := now.log ++ b.complaint f ++ later.log }

/-- One sweep, by what the clock says. -/
def swept (d : Depot) (s : SweeperSettings) : Except Failure Reading → Reply Sweep
  | .error f => .quiet (.error f)
  | .ok now => Sweep.run d.dispatcher.store now s.staleAfterSeconds

/-- Watch over pending records. -/
def watch (scene : Scene) (d : Depot) (s : SweeperSettings) : Deed :=
  match scene.surroundings.clock with
  | .error f => { depot := d, answer := .error f }
  | .ok now =>
    let scheduler : Scheduler := { interval := s.intervalSeconds, isAwaited := true }
    let runs := scene.background.carried (swept d s) scene.background.runs
    let started := scheduler.startedEntry now.isoText :: runs.log
    let stale := runs.report.map fun report => report.stale.map Record.id
    match runs.failure with
    | some f =>
      { depot := d, events := started.map .log, answer := .error f
        watch := some { interval := s.intervalSeconds, stale := stale } }
    | none =>
      let stopping := match scene.ending with
        | .done => []
        | .signal => signalEntry 15 :: Scheduler.shutdownEntries false
        | .interrupt => Scheduler.shutdownEntries false
      { depot := d
        events := (started ++ watchingEntry :: stopping).map .log
        answer := .ok 0
        watch := some {
          interval := s.intervalSeconds
          stale := stale
          shutdowns := if scene.ending == .done then [] else [false] } }

/-- A scheduler that keeps failures to itself leaves none to the program. -/
theorem Background.failure_carried {α : Type} {b : Background} (keeps : ∀ f, b.letsThrough f = false)
    (job : Except Failure Reading → Reply α) (clocks : List (Except Failure Reading)) :
    (b.carried job clocks).failure = none := by
  induction clocks with
  | nil => rfl
  | cons clock clocks ih =>
    rw [carried]
    cases (job clock).answer with
    | ok report => exact ih
    | error f => simpa [keeps f] using ih

/-- Under a scheduler that keeps failures to itself, a watch ends well whatever its sweeps run
into. -/
theorem answer_watch {scene : Scene} (keeps : ∀ f, scene.background.letsThrough f = false)
    {now : Reading} (clock : scene.surroundings.clock = .ok now) (d : Depot) (s : SweeperSettings) :
    (watch scene d s).answer = .ok 0 := by
  simp only [watch, clock, Background.failure_carried keeps]

/-- Do what a command asks for. -/
def perform (scene : Scene) (d : Depot) (s : Settings) : Command → Deed
  | .send recipient eventType values metadata address =>
    match requestOf recipient eventType values metadata with
    | .error f => { depot := d, answer := .error f }
    | .ok q => deliver scene d q address
  | .stats recipient => answered d (d.dispatcher.stats recipient) fun stats => .ok stats.toJson
  | .history recipient limit => list d recipient limit
  | .sweep => watch scene d s.sweeper

/-! ## Runs -/

/-- What a user is told who looks at records that nobody kept. -/
def emptyNotice : String :=
  "Warning: no database configured; history is empty in a fresh process\n"

/-- The notice that a command without a database begins with. -/
def noticeFor (c : Command) (d : Depot) : List Event :=
  if c.kind != .send && d.database.isNone then [.notice emptyNotice] else []

/-- The exit status of a failure, and what is shown about it. -/
def failed (f : Failure) : Nat × List Event :=
  match f with
  | .settings report => (1, [.notice ("Configuration Error: " ++ report.text ++ "\n")])
  | f =>
    if f.isBadValue then (2, [.notice ("Error: " ++ f.text ++ "\n")])
    else if f.isInterrupt then (0, [.notice "\nShutdown requested by user\n"])
    else (1, [.notice ("Fatal error: " ++ f.text ++ "\n"), .log (fatalEntry f)])

/-- The outcome of a failure. -/
def Outcome.ofFailure (before : Outcome) (f : Failure) : Outcome :=
  let (exit, events) := failed f
  { before with exit := exit, events := before.events ++ events }

/-- The outcome of doing what a command asks for, once there is a depot. -/
def Outcome.ofDepot (before : Outcome) (scene : Scene) (s : Settings) (c : Command) (d : Depot) :
    Outcome :=
  let deed := perform scene d s c
  let (exit, ending) := match deed.answer with
    | .ok exit => (exit, [])
    | .error f => failed f
  { before with
    exit := exit
    events := before.events ++ noticeFor c d ++ deed.events ++ ending ++
      deed.depot.closingEntries.map .log
    watch := deed.watch
    isClosed := true
    disk := deed.depot.saved before.disk }

/-- The depot of a run, unless something befalls the program first. -/
def depotFor (scene : Scene) (s : Settings) (e : Environment) : Disk × Reply Depot :=
  match scene.mishap with
  | some m => (scene.disk, .quiet (.error (.mishap m)))
  | none => Depot.create scene.disk s e

/-- The outcome of an invocation. -/
def carryOut (scene : Scene) (i : Invocation) : Outcome :=
  let loading := Settings.load scene.disk (some i.config) scene.environment
  let loaded : Outcome := { exit := 0, events := loading.warnings.map .warning, disk := scene.disk }
  match loading.answer with
  | .error f => loaded.ofFailure f
  | .ok (s, e) =>
    let choice := logChoice i s e scene.environment
    let chosen := { loaded with logChoice := some choice }
    let level := levelText i s e
    match Log.Handler.create level choice.form choice.environment with
    | .error fault => chosen.ofFailure (.logSetup fault)
    | .ok (handler, configured) =>
      let (disk, made) := depotFor scene s e
      let ready := { chosen with
        handler := some handler
        events := chosen.events ++ ([configured, startingEntry i level] ++ made.log).map Event.log
        disk := disk }
      match made.answer with
      | .error f => ready.ofFailure f
      | .ok d => ready.ofDepot scene s i.command d

/-- The outcome of a command line. -/
def run (scene : Scene) (words : List String) : Outcome :=
  match Invocation.read words with
  | .error (.help command) => { exit := 0, events := [.result (help command)], disk := scene.disk }
  | .error (.fault command f) =>
    { exit := 2, events := [.notice (complaint command f)], disk := scene.disk }
  | .ok i => carryOut scene i

end Courier.Command
