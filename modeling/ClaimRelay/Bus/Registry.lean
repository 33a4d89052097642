import ClaimRelay.Table

/-! The connections of a bus, and what was reported on them.  Connections are numbered from one on
as they are made and never forgotten; a closed connection stays closed.  An event waits in the mail
until its listener takes it. -/

namespace ClaimRelay.Bus

/-- What a connection reports about its lifecycle. -/
inductive Event where
  | error (reason : String)
  | disconnected
  | reconnected
  /-- Servers that were found, and all servers now known. -/
  | discovered (found known : List String)
  /-- The connection is lost for good. -/
  | closed
deriving DecidableEq, Repr

/-- A connection. -/
structure Connection where
  servers : List String
  /-- Who is told about its lifecycle. -/
  listener : Nat
  closed : Bool := false
  /-- Whether nobody holds the connection any more. -/
  discarded : Bool := false
deriving DecidableEq, Repr

/-- Whether a connection is held and not closed. -/
def Connection.isOpen (c : Connection) : Bool := !c.closed && !c.discarded

/-- The connections of a bus, and the events on them. -/
structure Registry where
  connections : Table Nat Connection := []
  /-- The events that nobody has taken yet, each with its listener, in order. -/
  mail : List (Nat × Event) := []

/-- The first event for a listener, and the events after it is taken. -/
def takeMail (listener : Nat) : List (Nat × Event) → Option (Event × List (Nat × Event))
  | [] => none
  | (l, event) :: rest =>
    if l = listener then some (event, rest)
    else (takeMail listener rest).map fun taken => (taken.1, (l, event) :: taken.2)

namespace Registry

/-- The numbers of the open connections, in the order in which they were made. -/
def openConnections (r : Registry) : List Nat :=
  (r.connections.filter fun entry => entry.2.isOpen).map (·.1)

/-- Whether a connection is closed.  One that was never made counts as closed. -/
def isClosed (r : Registry) (id : Nat) : Bool :=
  match r.connections.get? id with
  | some c => c.closed
  | none => true

/-- Whether messages can no longer reach the subscriptions of a connection. -/
def isOver (r : Registry) (id : Nat) : Bool :=
  match r.connections.get? id with
  | some c => !c.isOpen
  | none => true

/-- The number of the next connection. -/
def nextId (r : Registry) : Nat := r.connections.length + 1

/-- Enters a new connection. -/
def enter (c : Connection) (r : Registry) : Registry :=
  { r with connections := r.connections.put r.nextId c }

/-- Tells a listener about an event. -/
def tell (listener : Nat) (event : Event) (r : Registry) : Registry :=
  { r with mail := r.mail ++ [(listener, event)] }

/-- Closes a connection, which is reported once. -/
def close (id : Nat) (r : Registry) : Registry :=
  match r.connections.get? id with
  | some c =>
    if c.closed then r
    else tell c.listener .closed
      { r with connections := r.connections.put id { c with closed := true } }
  | none => r

/-- Closes a connection, if one is given. -/
def closeAny (id : Option Nat) (r : Registry) : Registry :=
  match id with
  | some id => r.close id
  | none => r

/-- Notes that nobody holds a connection any more. -/
def discard (id : Nat) (r : Registry) : Registry :=
  match r.connections.get? id with
  | some c => { r with connections := r.connections.put id { c with discarded := true } }
  | none => r

/-- Reports an event on a connection. -/
def report (event : Event) (r : Registry) (id : Nat) : Registry :=
  match r.connections.get? id with
  | some c => r.tell c.listener event
  | none => r

end Registry

end ClaimRelay.Bus
