import ClaimRelay.Daemon.Failure
import ClaimRelay.Nats.Client
import ClaimRelay.Network.Schedule
import ClaimRelay.Notice.Filter

/-! The life of the daemon: it loads its settings, puts its server together, starts it, and stops it
when it is told to end. -/

namespace ClaimRelay.Daemon

/-- The part of the program that gives the notices below. -/
def source : String := "notify_runtime"

/-- A notice of the daemon's progress. -/
def progress (text : String) : Notice := ⟨.info, source, text, []⟩

/-- The notices of the beginning. -/
def banner : List Notice :=
  [progress "===========================================",
   progress "  Claim Notify Runtime v0.1.0",
   progress "==========================================="]

/-- The notice of the bus that is used. -/
def busNotice : BusKind → Notice
  | .nats => ⟨.info, "notify_runtime::container", "Using NATS bus client", []⟩
  | .loopback =>
    ⟨.warn, "notify_runtime::container",
      "Using in-process loopback bus; notifications stay inside this process", []⟩

/-- The notice that the daemon runs. -/
def runningNotice (settings : Settings) : Notice :=
  ⟨.info, source, "Notification runtime is running. Press Ctrl+C to stop.",
    [("primary", toString settings.server.primary), ("bus", settings.bus.label),
     ("servers", Text.quoteList settings.server.servers)]⟩

/-- How an attempt to reach NATS servers fails when none answers.  The wait before each server
counts as a part of the attempt. -/
def natsError (settings : ClaimRelay.Settings) (fs : FileSystem) : Bus.Error :=
  let options := settings.connectOptions
  match Nats.Client.connect .offline options fs {} with
  | (.error (.unreachable servers), _) =>
    if options.connectTimeout.toNat ≤ options.servers.length * options.reconnectWait.toNat then
      .timeout options.connectTimeout
    else .unreachable servers
  | (.error e, _) => e
  | (.ok _, _) => .noServers

/-- The notice of servers that do not answer. -/
def natsNotices (reason : Bus.Error) : List Notice :=
  match reason with
  | .unreachable servers =>
    [⟨.warn, "claim_bus::nats", "NATS connect failed",
      [("servers", servers), ("error", "IO error: Connection refused (os error 111)")]⟩]
  | _ => []

/-- Starts a manager that cannot reach its bus. -/
def startOffline (s : Manager.Scene) : Manager.Scene :=
  let reason := natsError s.manager.settings s.around.files
  let s :=
    { s with manager.running := true, manager.attempts := s.manager.attempts + 1 }
    |>.note .info "Claim notification server started"
      [("primary", toString s.manager.settings.primary)]
  ((natsNotices reason).foldl Manager.Scene.give s).connectFailed reason

/-- Starts the manager of the daemon's server. -/
def startManager (settings : Settings) (net : Network) : Network :=
  if settings.bus = .nats ∧ settings.server.isEnabled = true then
    (net.onManager 0 fun s => some (startOffline s)).getD net
  else (net.call 0 0 .start).2

/-- A daemon that runs. -/
structure Running where
  settings : Settings
  network : Network

/-- Starts the daemon, and returns the notices on the way. -/
def start (fs : FileSystem) (vars : Variables) : Except Failure Running × List Notice :=
  match Settings.load fs vars with
  | (.error reason, notices) => (.error (.settings reason), notices)
  | (.ok settings, notices) =>
    let notices := notices ++ banner ++ [busNotice settings.bus]
    match settings.assemble 0 fs with
    | (.error reason, _) => (.error (.assembly reason), notices)
    | (.ok manager, files) =>
      let net := startManager settings
        { around := { files, bus := .ofCapacity .standard }, managers := [manager] }
      let running := { net with around.notices := [] }
      (.ok ⟨settings, running⟩, notices ++ net.around.notices.reverse ++ [runningNotice settings])

/-- Stops the daemon, and returns the notices on the way. -/
def stop (daemon : Running) : List Notice :=
  let (_, net) := daemon.network.call 0 1 .stop
  progress "Initiating graceful shutdown..." ::
    net.around.notices.reverse ++ [progress "Shutdown complete"]

/-- What a run of the daemon shows: its exit code, its notices, and the report of a failure. -/
structure Report where
  exitCode : Nat
  notices : List Notice
  failure : String

/-- A whole run, which is told to end as soon as the daemon runs. -/
def run (fs : FileSystem) (vars : Variables) : Report :=
  match start fs vars with
  | (.error failure, notices) => ⟨1, notices, failure.report⟩
  | (.ok daemon, notices) => ⟨0, notices ++ stop daemon, ""⟩

/-- The notices that the variables ask for, line by line. -/
def Report.lines (report : Report) (vars : Variables) : List String :=
  (Notice.Filter.ofVariable (vars "RUST_LOG")).lines report.notices

end ClaimRelay.Daemon
