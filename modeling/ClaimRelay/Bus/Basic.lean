import ClaimRelay.Bus.Channel
import ClaimRelay.Bus.Options
import ClaimRelay.Bus.Registry

/-! A bus inside the process.  Connections publish and subscribe on it and are told about their own
lifecycle.  Failures of a real bus can be brought about at will. -/

namespace ClaimRelay

/-- A subscription of a connection: its pattern, and the place in the channel it reads next. -/
structure Bus.Subscription where
  connection : Nat
  pattern : String
  cursor : Nat
deriving DecidableEq, Repr

/-- A bus.  Subscriptions are numbered as they are made, like connections. -/
structure Bus extends Bus.Registry where
  channel : Bus.Channel
  /-- How many attempts to connect there were. -/
  attempts : Nat := 0
  /-- How many more attempts will fail. -/
  failing : Nat := 0
  /-- How long an attempt takes, in milliseconds. -/
  delay : Option Nat := none
  /-- The servers that were announced last. -/
  discovered : List String := []
  /-- The subscriptions that are held. -/
  subscriptions : Table Nat Bus.Subscription := []
  /-- How many subscriptions were made. -/
  subscribed : Nat := 0

namespace Bus

/-- The greatest number of bytes in a message. -/
def greatestPayload : Nat := 1048576

/-- A bus of the given capacity. -/
def ofCapacity (capacity : Capacity) : Bus := { channel := { capacity } }

/-- The number of messages published so far. -/
def published (bus : Bus) : Nat := bus.channel.tail

/-- The number of subscriptions that are held. -/
def subscriptionCount (bus : Bus) : Nat := bus.subscriptions.length

/-! ### Lifecycle -/

/-- All servers that a connection with the given servers knows. -/
def knownServers (servers discovered : List String) : List String :=
  discovered.foldl (fun known server => if server ∈ known then known else known ++ [server]) servers

/-- Closes a connection, which is reported once. -/
def close (id : Nat) (bus : Bus) : Bus := { bus with toRegistry := bus.toRegistry.close id }

/-- Closes a connection, if one is given. -/
def closeAny (id : Option Nat) (bus : Bus) : Bus :=
  { bus with toRegistry := bus.toRegistry.closeAny id }

/-- Notes that nobody holds a connection any more. -/
def discard (id : Nat) (bus : Bus) : Bus := { bus with toRegistry := bus.toRegistry.discard id }

/-- Reports an event on a connection. -/
def report (event : Event) (bus : Bus) (id : Nat) : Bus :=
  { bus with toRegistry := bus.toRegistry.report event id }

/-- Reports an event on every open connection. -/
def reportAll (event : Event) (bus : Bus) : Bus :=
  bus.openConnections.foldl (report event) bus

/-- Reports on a connection which servers were found. -/
def reportServers (bus : Bus) (id : Nat) : Bus :=
  match bus.connections.get? id with
  | some c => bus.report (.discovered bus.discovered (knownServers c.servers bus.discovered)) id
  | none => bus

/-- Announces servers on every open connection. -/
def announce (servers : List String) (bus : Bus) : Bus :=
  bus.openConnections.foldl reportServers { bus with discovered := servers }

/-- Gives up every open connection. -/
def closeAll (bus : Bus) : Bus := bus.openConnections.foldl (fun bus id => bus.close id) bus

/-- Notes that the bus itself is no longer held; its connections live on and know no servers that
were announced. -/
def abandon (bus : Bus) : Bus := { bus with discovered := [] }

/-! ### Connecting -/

/-- Starts an attempt to connect.  An attempt that is not refused at once takes the time returned,
if any. -/
def beginConnect (options : Options) (fs : FileSystem) (bus : Bus) :
    Except Error (Option Nat) × Bus :=
  let bus := { bus with attempts := bus.attempts + 1 }
  if options.servers = [] then (.error .noServers, bus)
  else match options.check fs with
    | .error e => (.error e, bus)
    | .ok () => (.ok bus.delay, bus)

/-- Finishes an attempt to connect, with the number of the connection if it succeeds. -/
def finishConnect (options : Options) (listener : Nat) (bus : Bus) : Except Error Nat × Bus :=
  if 0 < bus.failing then
    (.error (.unreachable options.serverList), { bus with failing := bus.failing - 1 })
  else
    (.ok bus.nextId,
      { bus with toRegistry := bus.toRegistry.enter { servers := options.servers, listener } })

/-- A whole attempt to connect that is given up after `limit` milliseconds: how long it took, and
the number of the connection, `none` if it was given up. -/
def connect (options : Options) (fs : FileSystem) (listener limit : Nat) (bus : Bus) :
    Nat × Except Error (Option Nat) × Bus :=
  match bus.beginConnect options fs with
  | (.error e, bus) => (0, .error e, bus)
  | (.ok delay, bus) =>
    let duration := delay.getD 0
    if limit < duration then (limit, .ok none, bus)
    else match bus.finishConnect options listener with
      | (.error e, bus) => (duration, .error e, bus)
      | (.ok id, bus) => (duration, .ok (some id), bus)

/-! ### Messages -/

/-- Publishes a message on a connection. -/
def publish (id : Nat) (message : Message) (bus : Bus) : Except Error Unit × Bus :=
  if bus.isClosed id then (.error .connectionClosed, bus)
  else match checkSubject message.subject with
    | .error e => (.error e, bus)
    | .ok () =>
      let size := message.payload.length
      if greatestPayload < size then (.error (.payloadTooLarge size greatestPayload), bus)
      else (.ok (), { bus with channel := bus.channel.send message })

/-- Subscribes a connection to a pattern and returns the number of the subscription. -/
def subscribe (id : Nat) (pattern : String) (bus : Bus) : Except Error Nat × Bus :=
  if bus.isClosed id then (.error .connectionClosed, bus)
  else match checkPattern pattern with
    | .error e => (.error e, bus)
    | .ok () =>
      let number := bus.subscribed + 1
      (.ok number, { bus with
        subscribed := number
        subscriptions := bus.subscriptions.put number ⟨id, pattern, bus.channel.tail⟩ })

/-- Gives up a subscription. -/
def unsubscribe (number : Nat) (bus : Bus) : Bus :=
  { bus with subscriptions := bus.subscriptions.erase number }

/-- How many messages the reader of a subscription has not looked at. -/
def unread (number : Nat) (bus : Bus) : Nat :=
  match bus.subscriptions.get? number with
  | none => 0
  | some s => bus.channel.tail - s.cursor

/-- What a subscription has for its reader. -/
inductive Received where
  | message (message : Message)
  /-- There is nothing now. -/
  | pending
  /-- There will be nothing more. -/
  | ended
deriving DecidableEq, Repr

/-- Whether the reader of a subscription may begin to wait for a message, which it does unless its connection
is closed. -/
def canWait (number : Nat) (bus : Bus) : Bool :=
  match bus.subscriptions.get? number with
  | none => false
  | some s => !bus.isClosed s.connection

/-- What a reader looks for first. -/
inductive Branch where
  /-- The end of its connection. -/
  | closing
  /-- A message.  A reader on a closed connection may look for it first only if it has waited already. -/
  | message
deriving DecidableEq, Repr

/-- The next message for the reader of a subscription, and its place.  Where the connection is over there is
none for a reader that looks for this first.  Another one may still get a message, but not go on to a
later place once the connection is closed. -/
def found? (s : Subscription) (first : Branch) (bus : Bus) : Option (Nat × Message) :=
  let found := bus.channel.search s.pattern (bus.channel.resume s.cursor)
  if !bus.isOver s.connection then found
  else match first with
    | .closing => none
    | .message => if bus.isClosed s.connection then found.filter (·.1 = s.cursor) else found

/-- Takes the next message of a subscription. -/
def receive (number : Nat) (bus : Bus) (first : Branch := .closing) : Received × Bus :=
  match bus.subscriptions.get? number with
  | none => (.ended, bus)
  | some s =>
    let read (cursor : Nat) : Bus :=
      { bus with subscriptions := bus.subscriptions.put number { s with cursor } }
    match bus.found? s first with
    | some (place, message) => (.message message, read (place + 1))
    | none => if bus.isOver s.connection then (.ended, bus) else (.pending, read bus.channel.tail)

end Bus

end ClaimRelay
