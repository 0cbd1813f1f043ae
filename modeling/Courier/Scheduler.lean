import Courier.Log.Entry
import Courier.Value.Text

/-!
# The scheduler

A scheduler runs one job, first when it is started and from then on at an interval, until it is shut
down. The job can also be run at once, whether or not the scheduler is running. A shutdown is told
to whoever waits for it, where somebody does.
-/

namespace Courier

/-- A scheduler of one job. -/
structure Scheduler where
  /-- The seconds between two runs. -/
  interval : Int
  /-- Whether somebody waits for the shutdown. -/
  isAwaited : Bool := false
  isRunning : Bool := false
  /-- How often the job has run. -/
  runs : Nat := 0
  /-- Whether those who wait have been told of a shutdown. -/
  isTold : Bool := false
deriving DecidableEq, Repr, Inhabited

namespace Scheduler

/-- Why a scheduler cannot be started. -/
inductive Fault where
  | alreadyRunning
deriving DecidableEq, Repr

/-- The name of a fault. -/
def Fault.label : Fault → String
  | alreadyRunning => "SchedulerAlreadyRunningError"

/-- What a caller is told. -/
def Fault.message : Fault → String
  | alreadyRunning => "Scheduler is already running"

/-- Whether a next run is planned. -/
def isPlanned (s : Scheduler) : Bool := s.isRunning

/-- The scheduler after one run of the job. -/
def trigger (s : Scheduler) : Scheduler := { s with runs := s.runs + 1 }

/-- The scheduler once it is running and the job has run for the first time. -/
def start (s : Scheduler) : Except Fault Scheduler :=
  if s.isRunning then .error .alreadyRunning else .ok { s.trigger with isRunning := true }

/-- The scheduler after a shutdown; a second one changes nothing. -/
def shutdown (s : Scheduler) : Scheduler :=
  { s with isRunning := false, isTold := s.isTold || s.isAwaited }

/-! ## Log -/

/-- The place that speaks for the scheduler. -/
def source : Log.Source := ⟨"notify_engine.scheduler.service", some "scheduler"⟩

/-- The name of the job. -/
def job : String := "pending-sweep"

/-- The entry about a scheduler that was started, with the time of the first run. -/
def startedEntry (s : Scheduler) (time : String) : Log.Entry :=
  source.entry .info ("Scheduler started with interval: " ++ Value.intText s.interval ++ " seconds")
    [("event", .text "scheduler.started"), ("job_id", .text job),
     ("interval_seconds", .int s.interval), ("next_run_time", .text time)]

/-- The entry about a run at once. -/
def triggerEntry : Log.Entry :=
  source.entry .info ("Triggering immediate run of " ++ job)
    [("event", .text "scheduler.trigger_now"), ("job_id", .text job)]

/-- The entries about a shutdown. -/
def shutdownEntries (waits : Bool) : List Log.Entry :=
  [source.entry .info "Shutting down scheduler"
    [("event", .text "scheduler.stopping"), ("wait_for_jobs", .bool waits)],
   source.entry .info "Scheduler shutdown complete" [("event", .text "scheduler.stopped")]]

@[simp] theorem shutdown_shutdown (s : Scheduler) : s.shutdown.shutdown = s.shutdown := by
  simp [shutdown]

end Scheduler

end Courier
