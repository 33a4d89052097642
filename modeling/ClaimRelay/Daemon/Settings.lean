import ClaimRelay.Settings.Override

/-! The settings of the daemon: those of its server, which bus it uses, and where it keeps
claims. -/

namespace ClaimRelay.Daemon

/-- The kinds of bus. -/
inductive BusKind where
  /-- A cluster of servers that is reached over the network. -/
  | nats
  /-- A bus inside the process. -/
  | loopback
deriving DecidableEq, Repr

/-- The name of a kind of bus. -/
def BusKind.label : BusKind → String
  | .nats => "nats"
  | .loopback => "loopback"

/-- The kind of bus with the given name; the case of its letters does not matter. -/
def BusKind.ofName? (name : String) : Option BusKind :=
  let lower := name.toList.map Char.toLower
  if lower = "nats".toList then some .nats
  else if lower = "loopback".toList then some .loopback
  else none

/-- The settings of the daemon. -/
structure Settings where
  server : ClaimRelay.Settings := {}
  bus : BusKind := .nats
  /-- The directory of claims; without one they are kept in memory. -/
  storeDirectory : Option String := none
  /-- Whether nothing may be written to the directory. -/
  storeReadOnly : Bool := false
deriving DecidableEq, Repr

namespace Settings

/-- The part of the program that gives the notices below. -/
def source : String := "notify_runtime::container::config"

/-- The kind of bus that the variables ask for, with a notice if there is no such kind. -/
def busKind (vars : Variables) : BusKind × List Notice :=
  match vars "CLAIM_NOTIFY_BUS" with
  | none => (.nats, [])
  | some name =>
    match BusKind.ofName? name with
    | some kind => (kind, [])
    | none =>
      (.nats, [⟨.warn, source, "Unknown bus client, using nats",
        [("var", Text.quote "CLAIM_NOTIFY_BUS"), ("value", name)]⟩])

/-- The notice of a directory of claims. -/
def storeNotice (settings : Settings) : List Notice :=
  match settings.storeDirectory with
  | none => []
  | some path =>
    [⟨.info, source, "Using directory claim store",
      [("dir", path), ("read_only", toString settings.storeReadOnly)]⟩]

/-- The settings with the variables for the bus and the store, and the notices about them. -/
def ofParts (server : ClaimRelay.Settings) (vars : Variables) : Settings × List Notice :=
  let (bus, notices) := busKind vars
  let settings : Settings :=
    { server, bus
      storeDirectory := (vars "CLAIM_NOTIFY_STORE_DIR").filter (· ≠ "")
      storeReadOnly :=
        match vars "CLAIM_NOTIFY_STORE_READ_ONLY" with
        | some text => text = "1" || text = "true" || text = "yes"
        | none => false }
  (settings, notices ++ settings.storeNotice)

/-- The settings that the variables and the file they name give, with the notices on the way. -/
def load (fs : FileSystem) (vars : Variables) :
    Except ClaimRelay.Settings.Error Settings × List Notice :=
  match ClaimRelay.Settings.load fs vars with
  | .error e => (.error e, [])
  | .ok server =>
    let (settings, notices) := ofParts server vars
    let notices := ClaimRelay.Settings.overrideNotices vars ++ notices
    match server.validate with
    | .error e => (.error e, notices)
    | .ok () => (.ok settings, notices)

end Settings

end ClaimRelay.Daemon
