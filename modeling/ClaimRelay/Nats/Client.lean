import ClaimRelay.Bus.Options
import ClaimRelay.Nats.Address
import ClaimRelay.Nats.Credentials

/-! A client of NATS servers.  It checks what it is asked to connect to before it reaches out, and
numbers the connections that it reaches out for. -/

namespace ClaimRelay.Nats

/-- Why no server could be reached. -/
inductive DialError where
  | unreachable
  | timedOut
  /-- A server does not accept the credentials. -/
  | refused (reason : String)
deriving DecidableEq, Repr

/-- How servers are reached. -/
abbrev Dial := List String → Except DialError Unit

/-- No server can be reached. -/
def Dial.offline : Dial := fun _ => .error .unreachable

/-- A client: the number of the connections that it reached out for. -/
structure Client where
  dialed : Nat := 0
deriving DecidableEq, Repr

namespace Client

/-- The flaw of the first address that has one. -/
def addressError? (servers : List String) : Option Bus.Error :=
  servers.findSome? fun address => (Address.flaw? address).map (.badAddress address)

/-- The error for a dial that failed. -/
def dialError (options : Bus.Options) : DialError → Bus.Error
  | .unreachable => .unreachable options.serverList
  | .timedOut => .timeout options.connectTimeout
  | .refused reason => .credentials (.refused reason)

/-- Refuses addresses and files that cannot be used, the addresses first. -/
def check (options : Bus.Options) (fs : FileSystem) : Except Bus.Error Unit :=
  if options.servers = [] then .error .noServers
  else match addressError? options.servers with
    | some e => .error e
    | none => options.check fs

/-- Connects, and returns the number of the connection. -/
def connect (dial : Dial) (options : Bus.Options) (fs : FileSystem) (client : Client) :
    Except Bus.Error Nat × Client :=
  match check options fs with
  | .error e => (.error e, client)
  | .ok () =>
    let id := client.dialed + 1
    let client := { client with dialed := id }
    let credentials := match options.credentials with
      | some path => Credentials.check fs path
      | none => .ok ()
    match credentials with
    | .error e => (.error e, client)
    | .ok () =>
      match dial options.servers with
      | .error e => (.error (dialError options e), client)
      | .ok () => (.ok id, client)

end Client

end ClaimRelay.Nats
