import ClaimRelay.Manager.Serve

/-! A network: the managers of any number of servers on one bus.  A step is what one manager does
without waiting, or something that happens around the managers; the managers take their steps in any
order. -/

namespace ClaimRelay

/-- The managers on a bus, and what they share. -/
structure Network where
  around : Surroundings
  managers : List Manager := []

namespace Network

/-- A step.  A manager is named by its place in the network. -/
inductive Action where
  /-- A caller asks something of a manager. -/
  | request (manager ticket : Nat) (call : Manager.Call)
  /-- The first waiter gets the lock. -/
  | grant (manager : Nat)
  /-- An attempt is over. -/
  | finish (manager : Nat)
  /-- The time of a retry has come. -/
  | wake (manager id : Nat)
  /-- A manager takes an event. -/
  | hear (manager : Nat)
  /-- A dispatcher goes on, and looks for `first` first. -/
  | dispatch (manager subscription : Nat) (first : Bus.Branch := .closing)
  /-- The owner lets a manager go. -/
  | release (manager : Nat)
  /-- A manager that was let go ends. -/
  | reap (manager : Nat)
  /-- Time goes on. -/
  | tick (now : Nat)
deriving DecidableEq, Repr

/-- The network after something that the manager at place `i` does. -/
def onManager (i : Nat) (step : Manager.Scene → Option Manager.Scene) (net : Network) :
    Option Network :=
  match net.managers[i]? with
  | none => none
  | some manager =>
    match step ⟨manager, net.around⟩ with
    | none => none
    | some scene => some { around := scene.around, managers := net.managers.set i scene.manager }

/-- The network after a step, `none` if the step cannot be taken. -/
def step? (net : Network) : Action → Option Network
  | .request i ticket call => net.onManager i fun s => some (s.request ticket call)
  | .grant i => net.onManager i (·.grant)
  | .finish i => net.onManager i (·.finish)
  | .wake i id => net.onManager i (·.wake id)
  | .hear i => net.onManager i (·.hear)
  | .dispatch i subscription first => net.onManager i (·.dispatch subscription first)
  | .release i => net.onManager i fun s => some s.release
  | .reap i => net.onManager i (·.reap)
  | .tick now => if net.around.now ≤ now then some { net with around.now := now } else none

/-! ### What others do on the bus -/

/-- The network after something that happens on its bus. -/
def onBus {α : Type} (f : Bus → α × Bus) (net : Network) : α × Network :=
  let (result, bus) := f net.around.bus
  (result, { net with around.bus := bus })

/-- Notes one more holder of a connection. -/
def hold (connection : Nat) (net : Network) : Network :=
  { net with around.holds := connection :: net.around.holds }

/-- Whether a manager has a connection as its current one. -/
def isCurrent (net : Network) (connection : Nat) : Bool :=
  net.managers.any fun m => m.connection = some connection

/-- Notes one holder of a connection less. -/
def letGo (connection : Nat) (net : Network) : Network :=
  let holds := net.around.holds.erase connection
  let net := { net with around.holds := holds }
  if connection ∈ holds ∨ net.isCurrent connection then net
  else { net with around.bus := net.around.bus.discard connection }

/-- A listener that is no manager. -/
def outsider (net : Network) : Nat := net.managers.length

end Network

end ClaimRelay
