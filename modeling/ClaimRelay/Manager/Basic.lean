import ClaimRelay.Bus.Basic
import ClaimRelay.Ingest
import ClaimRelay.Settings.Basic

/-! The manager of a server's connection: its state, the calls it answers, and what is around it.
One call at a time holds the manager's lock; others wait in order.  A call that connects holds the
lock until its attempt is over. -/

namespace ClaimRelay

namespace Manager

/-- Where the manager is with its own attempts to connect. -/
inductive Phase where
  | idle
  | connecting
  | waitingToRetry
deriving DecidableEq, Repr

/-- The name of a phase. -/
def Phase.label : Phase → String
  | .idle => "idle"
  | .connecting => "connecting"
  | .waitingToRetry => "waiting_to_retry"

/-- What a caller asks of a manager. -/
inductive Call where
  /-- To run and to connect. -/
  | start
  /-- To connect if there is no connection. -/
  | connect
  /-- To replace the connection by a new one. -/
  | reconnect
  /-- To stop and to close the connection. -/
  | stop
  /-- To hand out the connection. -/
  | acquire
  /-- To publish a message about the claim with the given key. -/
  | publish (subject key : String) (payload : List UInt8)
deriving DecidableEq, Repr

/-- The call that announces a changed account claim. -/
def Call.accountUpdate (claim : List UInt8) (account : String) : Call :=
  .publish (Notification.accountSubject account) account claim

/-- The call that announces an activation. -/
def Call.activation (hash account : String) (claim : List UInt8) : Call :=
  .publish (Notification.activationSubject account hash) hash claim

/-- Why a manager refuses a call. -/
inductive Error where
  /-- No new connection could be made. -/
  | connect (reason : Bus.Error)
  /-- The bus refuses the message. -/
  | publish (subject : String) (reason : Bus.Error)
deriving DecidableEq, Repr

/-- The message for a refusal. -/
def Error.message : Error → String
  | .connect reason => s!"Failed to connect to notification bus: {reason.message}"
  | .publish subject reason =>
    s!"Failed to publish notification on {subject}: {reason.message}"

/-- What a call returns. -/
inductive Result where
  | done
  /-- Whether there is a new connection. -/
  | reconnected (result : Except Error Bool)
  /-- Whether this call stopped the manager. -/
  | stopped (result : Bool)
  | published (result : Except Error Unit)
  | acquired (connection : Option Nat)

/-- What waits for the lock. -/
inductive Waiter where
  /-- A call; its ticket says where the result goes. -/
  | call (ticket : Nat) (call : Call)
  /-- A retry whose time has come. -/
  | retry (id : Nat)
  /-- An event that needs the lock. -/
  | event (event : Bus.Event)
deriving DecidableEq, Repr

/-- Whether a waiter is an event. -/
def Waiter.isEvent : Waiter → Bool
  | .event _ => true
  | _ => false

/-- An attempt that takes time: for whom it is made, when it is over, and whether it is given up
then.  Attempts and retries are numbered in the order in which they began to wait. -/
structure Attempt where
  waiter : Waiter
  due : Nat
  timesOut : Bool
  serial : Nat
deriving DecidableEq, Repr

/-- A retry that waits for its time. -/
structure Timer where
  due : Nat
  serial : Nat
deriving DecidableEq, Repr

/-- A task that takes in the messages of a subscription. -/
structure Dispatcher where
  kind : Notification
  subscription : Nat
  connection : Nat
  started : Bool := false
deriving DecidableEq, Repr

/-- Who keeps a manager alive. -/
inductive Life where
  /-- Its owner. -/
  | owned
  /-- Only what it has not finished yet. -/
  | released
  /-- Nobody any more. -/
  | ended
deriving DecidableEq, Repr

/-- What decides over a manager's connection. -/
structure Control where
  settings : Settings
  /-- Under which number its connections report to it. -/
  listener : Nat
  running : Bool := false
  /-- The current connection. -/
  connection : Option Nat := none
  /-- The retry that is pending. -/
  retry : Option Nat := none
  phase : Phase := .idle
  /-- How many attempts to connect were made. -/
  attempts : Nat := 0
  /-- How many retries were scheduled. -/
  retries : Nat := 0
  /-- The attempt that holds the lock. -/
  attempt : Option Attempt := none
  /-- What waits for the lock, in order. -/
  queue : List Waiter := []
  /-- The retries that wait for their time. -/
  timers : Table Nat Timer := []
  /-- The exit codes with which the process was told to end. -/
  exits : List Nat := []
  life : Life := .owned

namespace Control

/-- Schedules a retry with the given timer. -/
def schedule (timer : Timer) (c : Control) : Control :=
  { c with
    retries := c.retries + 1
    phase := .waitingToRetry
    retry := some c.retries
    timers := c.timers ++ [(c.retries, timer)] }

/-- Cancels the retry that is pending. -/
def cancelRetry (c : Control) : Control :=
  match c.retry with
  | none => c
  | some id =>
    { c with
      retry := none
      timers := c.timers.erase id
      queue := c.queue.filter (· ≠ .retry id) }

end Control

end Manager

/-- The manager of a server's connection. -/
structure Manager extends Manager.Control where
  store : Store
  ingest : Ingest
  /-- Whether it was noted that there is no bus to connect to. -/
  disabledNoted : Bool := false
  /-- Whether events are listened to. -/
  listening : Bool := false
  dispatchers : List Manager.Dispatcher := []
  /-- The results of finished calls, by ticket. -/
  results : Table Nat Manager.Result := []

/-- What managers share: the clock, the files, the bus and the notices given so far. -/
structure Surroundings where
  /-- The time in milliseconds. -/
  now : Nat := 0
  files : FileSystem
  bus : Bus
  /-- How many more subscriptions of managers will be refused. -/
  refusing : Nat := 0
  /-- The connections that others than their managers hold, once for each holder. -/
  holds : List Nat := []
  /-- How many attempts and retries began to wait. -/
  serial : Nat := 0
  /-- The notices given so far, the latest first. -/
  notices : List Notice := []

namespace Manager

/-- A manager and what is around it. -/
structure Scene where
  manager : Manager
  around : Surroundings

/-- Why no manager can be made of some settings. -/
inductive CreateError where
  | settings (reason : Settings.Error)
deriving DecidableEq, Repr

/-- The message for a refusal. -/
def CreateError.message : CreateError → String
  | .settings reason => s!"Invalid notification configuration: {reason.message}"

/-- A manager that does not run yet. -/
def create (settings : Settings) (listener : Nat) (store : Store) : Except CreateError Manager :=
  match settings.validate with
  | .error reason => .error (.settings reason)
  | .ok () =>
    .ok { settings, listener, store, ingest := { cache := { ttl := 1000 * settings.cacheTtl.toNat } } }

/-- Whether a call holds the lock. -/
def isLocked (manager : Manager) : Bool := manager.attempt.isSome || !manager.queue.isEmpty

end Manager

end ClaimRelay
