import ClaimRelay.Network.Basic

/-! The order in which a network takes its steps when nothing else decides it.  Time stands still
while any step can be taken; then it goes on to the next moment at which an attempt or a retry is
due.  What is due comes first, in the order in which it began to wait, then ends of managers, calls,
events and messages. -/

namespace ClaimRelay.Network

/-- Something that becomes due: when, its number, and the step it allows. -/
structure Due where
  due : Nat
  serial : Nat
  action : Action

/-- What waits for its time in the manager at place `i`. -/
def managerDues (i : Nat) (m : Manager) : List Due :=
  (match m.attempt with
    | some a => [⟨a.due, a.serial, .finish i⟩]
    | none => []) ++
  m.timers.map fun entry => ⟨entry.2.due, entry.2.serial, .wake i entry.1⟩

/-- The managers with their places. -/
def places (net : Network) : List (Nat × Manager) := (List.range net.managers.length).zip net.managers

/-- Everything that waits for its time. -/
def dues (net : Network) : List Due := net.places.flatMap fun p => managerDues p.1 p.2

/-- Whether one thing becomes due before another one. -/
def Due.isBefore (a b : Due) : Bool := a.due < b.due || (a.due = b.due && a.serial < b.serial)

/-- The thing that becomes due first. -/
def firstDue? (net : Network) : Option Due :=
  net.dues.foldl (fun first d =>
    match first with
    | none => some d
    | some f => if d.isBefore f then some d else some f) none

/-- The step of what is due now. -/
def dueAction? (net : Network) : Option Action :=
  net.firstDue?.bind fun d => if d.due ≤ net.around.now then some d.action else none

/-- The steps that are tried when nothing is due, the first ones first. -/
def candidates (net : Network) : List Action :=
  let all := net.places
  all.map (fun p => .reap p.1) ++ all.map (fun p => .grant p.1) ++ all.map (fun p => .hear p.1) ++
  all.flatMap fun p => p.2.dispatchers.map fun d => .dispatch p.1 d.subscription

/-- The network after the next step, `none` if there is nothing to do now.  A retry whose time has
come takes the lock at once if it is free. -/
def next? (net : Network) : Option Network :=
  match net.dueAction? with
  | some (.wake i id) =>
    (net.step? (.wake i id)).map fun woken => (woken.step? (.grant i)).getD woken
  | some action => net.step? action
  | none => net.candidates.findSome? net.step?

/-- A bound on the number of steps that can be taken before time has to go on.  Whatever waits can
make two more readers and publish one more message. -/
def work (net : Network) : Nat :=
  let waiting := net.managers.foldl (fun n m =>
    n + m.queue.length + m.timers.length + m.dispatchers.length + 2) 1
  let readers := net.managers.foldl (fun n m => n + m.dispatchers.length) 0
  let messages := net.around.bus.channel.tail + waiting + 2
  16 * (waiting + net.around.bus.mail.length) + (readers + 2 * waiting) * messages

/-- Takes up to `fuel` steps. -/
def run : Nat → Network → Network
  | 0, net => net
  | fuel + 1, net =>
    match net.next? with
    | none => net
    | some net => run fuel net

/-- Takes steps until there is nothing to do now. -/
def settle (net : Network) : Network := net.run net.work

/-- The moment to go on to at `now`, on the way to `target`. -/
def nextMoment (net : Network) (now target : Nat) : Nat :=
  match net.firstDue? with
  | some d => max (now + 1) (min d.due target)
  | none => target

theorem lt_nextMoment (net : Network) {now target : Nat} (h : now < target) :
    now < net.nextMoment now target := by
  unfold nextMoment
  split <;> omega

/-- Settles at `now`, and then at each moment at which something is due, up to `target`. -/
def advanceFrom (now target : Nat) (net : Network) : Network :=
  let settled := settle { net with around.now := now }
  if _h : now < target then advanceFrom (settled.nextMoment now target) target settled
  else settled
termination_by target - now
decreasing_by exact Nat.sub_lt_sub_left _h (lt_nextMoment _ _h)

/-- Lets the time go on to `target`. -/
def advanceTo (target : Nat) (net : Network) : Network := net.advanceFrom net.around.now target

/-! ### Waiting for a result -/

/-- The result of a call, which is taken away. -/
def takeResult (i ticket : Nat) (net : Network) : Option (Manager.Result × Network) :=
  match net.managers[i]? with
  | none => none
  | some m =>
    (m.results.get? ticket).map fun result =>
      (result, { net with
        managers := net.managers.set i { m with results := m.results.erase ticket } })

/-- Lets the time go on until the result of a call is there.  Every attempt that has the lock
before the call is waited for once. -/
def awaitResult (i ticket : Nat) : Nat → Network → Option Manager.Result × Network
  | 0, net => (none, net)
  | fuel + 1, net =>
    let net := net.settle
    match net.takeResult i ticket with
    | some (result, net) => (some result, net)
    | none =>
      match (net.managers[i]?).bind (·.attempt) with
      | none => (none, net)
      | some a => awaitResult i ticket fuel (net.advanceTo a.due)

/-- Waits for the result of a call that was made before. -/
def join (i ticket : Nat) (net : Network) : Option Manager.Result × Network :=
  let ahead := ((net.managers[i]?).map fun m => m.queue.length).getD 0
  net.awaitResult i ticket (ahead + 3)

/-- Makes a call and does not wait for its result. -/
def spawn (i ticket : Nat) (call : Manager.Call) (net : Network) : Network :=
  ((net.step? (.request i ticket call)).getD net).settle

/-- Makes a call and waits for its result. -/
def call (i ticket : Nat) (call : Manager.Call) (net : Network) :
    Option Manager.Result × Network :=
  (net.spawn i ticket call).join i ticket

/-- Connects to the bus past the managers and holds the connection. -/
def connectOutside (options : Bus.Options) (net : Network) : Except Bus.Error Nat × Network :=
  let (begun, net) := net.onBus (·.beginConnect options net.around.files)
  match begun with
  | .error e => (.error e, net)
  | .ok delay =>
    let net := match delay with
      | some delay => net.advanceTo (net.around.now + delay)
      | none => net
    let (result, net) := net.onBus (·.finishConnect options net.outsider)
    match result with
    | .error e => (.error e, net)
    | .ok connection => (.ok connection, net.hold connection)

end ClaimRelay.Network
