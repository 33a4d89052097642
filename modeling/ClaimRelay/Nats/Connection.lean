import ClaimRelay.Bus.Basic

/-! The lifecycle of a connection to NATS servers.  The client underneath reports what happens to it,
and the connection passes this on in the words of the bus: the first success is no news, and the end
is reported once. -/

namespace ClaimRelay.Nats

/-- What the client underneath reports. -/
inductive ClientEvent where
  | connected
  | disconnected
  | closed
  /-- It has tried as often as it may. -/
  | gaveUp
  /-- Anything else, in words. -/
  | other (text : String)
deriving DecidableEq, Repr

/-- An event that was passed on. -/
structure Report where
  event : Bus.Event
  /-- Whether the connection was marked as closed by then. -/
  closed : Bool
deriving DecidableEq, Repr

/-- A connection. -/
structure Connection where
  id : Nat
  servers : List String
  closed : Bool := false
  /-- Whether it has been connected before. -/
  connectedOnce : Bool := false
  /-- Whether the client underneath is still held. -/
  hasClient : Bool := true
  /-- Whether what was published is being sent before the client is let go. -/
  flushing : Bool := false
  /-- The events passed on so far. -/
  sent : List Report := []
deriving DecidableEq, Repr

namespace Connection

/-- Passes on an event. -/
def emit (event : Bus.Event) (c : Connection) : Connection :=
  { c with sent := c.sent ++ [⟨event, c.closed⟩] }

/-- Marks the connection as closed and then reports it, once. -/
def shutdown (c : Connection) : Connection :=
  if c.closed then c else { c with closed := true }.emit .closed

/-- Takes what the client underneath reports. -/
def onEvent (event : ClientEvent) (c : Connection) : Connection :=
  match event with
  | .connected => if c.connectedOnce then c.emit .reconnected else { c with connectedOnce := true }
  | .disconnected => c.emit .disconnected
  | .closed | .gaveUp => c.shutdown
  | .other text => c.emit (.error text)

/-- Begins to close: the client is taken, and what was published is sent first.  Only the first call
has anything to do. -/
def beginClose (c : Connection) : Connection :=
  if c.hasClient then { c with hasClient := false, flushing := true } else c

/-- Ends the first call to close. -/
def endClose (c : Connection) : Connection :=
  if c.flushing then { c with flushing := false }.shutdown else c

/-- Refuses to use a connection that is closed or being closed. -/
def checkOpen (c : Connection) : Except Bus.Error Unit :=
  if c.closed || !c.hasClient then .error .connectionClosed else .ok ()

/-- Publishes a message on a server that takes up to `greatest` bytes, where zero stands for no limit.
`client` is what the client underneath answers, an error in words. -/
def publish (greatest : Nat) (client : Bus.Message → Except String Unit) (message : Bus.Message)
    (c : Connection) : Except Bus.Error Unit := do
  c.checkOpen
  Bus.checkSubject message.subject
  let size := message.payload.length
  if 0 < greatest ∧ greatest < size then throw (.payloadTooLarge size greatest)
  (client message).mapError .client

/-- Subscribes to a pattern, which the client underneath may refuse. -/
def subscribe (client : String → Except String Unit) (pattern : String) (c : Connection) :
    Except Bus.Error Unit := do
  c.checkOpen
  Bus.checkPattern pattern
  (client pattern).mapError .client

end Connection

end ClaimRelay.Nats
