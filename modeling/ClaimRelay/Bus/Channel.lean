import ClaimRelay.Subject

/-! The channel that carries messages.  Every message gets the next place in the history.  A reader
has a cursor, the place it reads next.  The channel keeps a fixed number of the latest messages, so
a reader that falls further behind goes on with the oldest message kept. -/

namespace ClaimRelay.Bus

/-- A message. -/
structure Message where
  subject : String
  payload : List UInt8
deriving DecidableEq, Repr

/-- Why there is no channel of a capacity. -/
inductive Capacity.Error where
  | zero
  | tooGreat
deriving DecidableEq, Repr

/-- The message for a refusal. -/
def Capacity.Error.message : Capacity.Error → String
  | .zero => "broadcast channel capacity cannot be zero"
  | .tooGreat => "broadcast channel capacity exceeded `usize::MAX / 2`"

/-- How many messages a channel has to keep. -/
structure Capacity where
  val : Nat
  positive : 0 < val
  fits : val ≤ 9223372036854775807

/-- A number of messages as a capacity. -/
def Capacity.ofNat (n : Nat) : Except Capacity.Error Capacity :=
  if hpos : 0 < n then
    if hfits : n ≤ 9223372036854775807 then .ok ⟨n, hpos, hfits⟩ else .error .tooGreat
  else .error .zero

/-- The capacity of a bus unless another one is asked for. -/
def Capacity.standard : Capacity := ⟨1000, by decide, by decide⟩

/-- How many messages a channel keeps: the capacity, rounded up to a power of two. -/
def Capacity.kept (capacity : Capacity) : Nat := capacity.val.nextPowerOfTwo

/-- A channel: its capacity, and all messages ever sent, in order. -/
structure Channel where
  capacity : Capacity
  history : Array Message := #[]

namespace Channel

/-- The place that the next message will get. -/
def tail (channel : Channel) : Nat := channel.history.size

/-- The place of the oldest message kept. -/
def head (channel : Channel) : Nat := channel.tail - channel.capacity.kept

/-- Sends a message. -/
def send (message : Message) (channel : Channel) : Channel :=
  { channel with history := channel.history.push message }

/-- Where a reader at `cursor` goes on. -/
def resume (channel : Channel) (cursor : Nat) : Nat := max cursor channel.head

/-- The first message from `place` on that matches a pattern, and its place. -/
def search (channel : Channel) (pattern : String) (place : Nat) : Option (Nat × Message) :=
  if h : place < channel.history.size then
    let message := channel.history[place]
    if Subject.isMatch pattern message.subject then some (place, message)
    else search channel pattern (place + 1)
  else none
termination_by channel.history.size - place

end Channel

end ClaimRelay.Bus
