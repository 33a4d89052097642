import ClaimRelay.Bus.Options
import ClaimRelay.Json.Record

/-! The settings of a server: which bus it connects to and how, and what it does with
notifications. -/

namespace ClaimRelay

/-- The settings of a server.  Without servers of the bus it does nothing. -/
structure Settings where
  /-- The addresses of the servers of the bus. -/
  servers : List String := []
  /-- How often the bus tries a lost connection again; a negative number is no limit. -/
  maxReconnects : Int32 := 60
  /-- How long to wait before a failed attempt is repeated, in milliseconds. -/
  reconnectWait : UInt64 := 2000
  /-- How long an attempt to connect may take, in milliseconds. -/
  connectTimeout : UInt64 := 2000
  tls : Bus.Tls := {}
  /-- The file of credentials. -/
  credentials : Option String := none
  /-- Whether notifications are taken in. -/
  primary : Bool := false
  /-- How long a claim is fresh after a notification, in seconds. -/
  cacheTtl : UInt64 := 3600
  /-- The name that connections give themselves. -/
  name : Option String := none
deriving DecidableEq, Repr

/-- A time that must not be zero. -/
inductive Settings.Duration where
  | reconnectWait
  | connectTimeout
  | cacheTtl
deriving DecidableEq, Repr

/-- The name of a time. -/
def Settings.Duration.label : Settings.Duration → String
  | .reconnectWait => "reconnect_wait_ms"
  | .connectTimeout => "connect_timeout_ms"
  | .cacheTtl => "cache_ttl_secs"

/-- Why settings are refused. -/
inductive Settings.Error where
  /-- The file of settings cannot be read. -/
  | unreadable (path : String) (reason : FileSystem.Error)
  /-- The file of settings holds no settings. -/
  | malformed (path : String) (reason : Json.ReadError)
  | certificateWithoutKey
  | keyWithoutCertificate
  /-- The server at the given place of the list has a blank address. -/
  | emptyServer (index : Nat)
  | zero (duration : Settings.Duration)
deriving DecidableEq, Repr

/-- The message for a refusal. -/
def Settings.Error.message : Settings.Error → String
  | .unreadable path reason => s!"Cannot read config file {path}: {reason.message}"
  | .malformed path reason => s!"Cannot parse config file {path}: {reason.message}"
  | .certificateWithoutKey => "TLS client certificate configured without a key"
  | .keyWithoutCertificate => "TLS client key configured without a certificate"
  | .emptyServer index => s!"Bus server entry {index} is empty"
  | .zero duration => s!"{duration.label} must be greater than zero"

namespace Settings

/-- Whether there is a bus to connect to. -/
def isEnabled (settings : Settings) : Bool := !settings.servers.isEmpty

/-- Refuses settings that no server can work with, for the first problem found. -/
def validate (settings : Settings) : Except Error Unit := do
  match settings.servers.findIdx? fun server => Text.allBlank server.toList with
  | some index => throw (.emptyServer index)
  | none => pure ()
  match settings.tls.certificate, settings.tls.key with
  | some _, none => throw .certificateWithoutKey
  | none, some _ => throw .keyWithoutCertificate
  | _, _ => pure ()
  if settings.reconnectWait = 0 then throw (.zero .reconnectWait)
  if settings.connectTimeout = 0 then throw (.zero .connectTimeout)
  if settings.cacheTtl = 0 then throw (.zero .cacheTtl)

/-- What each attempt to connect asks for. -/
def connectOptions (settings : Settings) : Bus.Options where
  servers := settings.servers
  maxReconnects := settings.maxReconnects
  reconnectWait := settings.reconnectWait
  connectTimeout := settings.connectTimeout
  tls := settings.tls
  credentials := settings.credentials
  name := settings.name

end Settings

end ClaimRelay
