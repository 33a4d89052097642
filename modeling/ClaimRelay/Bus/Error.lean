import ClaimRelay.Subject
import ClaimRelay.Text.Quoted

/-! Why the bus refuses something. -/

namespace ClaimRelay.Bus

/-- What is wrong with the files for a secured connection. -/
inductive TlsFlaw where
  | unreadable (path : String)
  | certificateWithoutKey
  | keyWithoutCertificate
deriving DecidableEq, Repr

/-- The message for a flaw. -/
def TlsFlaw.message : TlsFlaw → String
  | .unreadable path => s!"{path} is not a readable file"
  | .certificateWithoutKey => "client certificate without key"
  | .keyWithoutCertificate => "client key without certificate"

/-- What is wrong with the credentials. -/
inductive CredentialsFlaw where
  | unreadable (path : String)
  /-- The file holds no text. -/
  | notText (path : String)
  /-- The file holds no token. -/
  | noToken (path : String)
  /-- The file holds a token and no key. -/
  | noKey (path : String)
  /-- A server does not accept them. -/
  | refused (reason : String)
deriving DecidableEq, Repr

/-- The message for a flaw. -/
def CredentialsFlaw.message : CredentialsFlaw → String
  | .unreadable path => s!"{path} is not a readable file"
  | .notText path => s!"{path}: stream did not contain valid UTF-8"
  | .noToken path => s!"{path}: cannot parse user JWT from the credentials file"
  | .noKey path => s!"{path}: cannot parse nkey from the credentials file"
  | .refused reason => s!"authorization violation: nats: {reason}"

/-- What is wrong with the address of a server. -/
inductive AddressFlaw where
  /-- It names another protocol. -/
  | scheme (found : String)
  | noScheme
  | emptyHost
  | badHost
  | badDomain
  | badIpv4
  | badIpv6
  | badPort
deriving DecidableEq, Repr

/-- The message for a flaw. -/
def AddressFlaw.message : AddressFlaw → String
  | .scheme found => s!"invalid scheme for NATS server URL: {found}"
  | .noScheme => "NATS server URL is invalid: relative URL without a base"
  | .emptyHost => "NATS server URL is invalid: empty host"
  | .badHost => "NATS server URL is invalid: invalid domain character"
  | .badDomain => "NATS server URL is invalid: invalid international domain name"
  | .badIpv4 => "NATS server URL is invalid: invalid IPv4 address"
  | .badIpv6 => "NATS server URL is invalid: invalid IPv6 address"
  | .badPort => "NATS server URL is invalid: invalid port number"

/-- Why the bus refuses something. -/
inductive Error where
  | noServers
  /-- None of the servers, joined by commas, can be reached. -/
  | unreachable (servers : String)
  | badAddress (address : String) (flaw : AddressFlaw)
  /-- The attempt took longer than the given number of milliseconds. -/
  | timeout (limit : UInt64)
  | tls (flaw : TlsFlaw)
  | credentials (flaw : CredentialsFlaw)
  | invalidSubject (subject : String) (flaw : Subject.Flaw)
  | payloadTooLarge (size greatest : Nat)
  /-- The connection refuses for a reason of its own. -/
  | client (reason : String)
  | connectionClosed
deriving DecidableEq, Repr

/-- The message for a refusal. -/
def Error.message : Error → String
  | .noServers => "No bus servers configured"
  | .unreachable servers => s!"No servers available for connection: {servers}"
  | .badAddress address flaw =>
    s!"No servers available for connection: {address}: {flaw.message}"
  | .timeout limit => s!"Connection timed out after {limit.toNat} ms"
  | .tls flaw => s!"TLS configuration error: {flaw.message}"
  | .credentials flaw => s!"Credentials error: {flaw.message}"
  | .invalidSubject subject flaw => s!"Invalid subject {Text.quote subject}: {flaw.message}"
  | .payloadTooLarge size greatest =>
    s!"Payload of {size} bytes exceeds maximum of {greatest}"
  | .client reason => s!"Bus client error: {reason}"
  | .connectionClosed => "Connection closed"

/-- Refuses a subject that no message may be published on. -/
def checkSubject (subject : String) : Except Error Unit :=
  match Subject.subjectFlaw? subject with
  | some flaw => .error (.invalidSubject subject flaw)
  | none => .ok ()

/-- Refuses a pattern that nobody may subscribe to. -/
def checkPattern (pattern : String) : Except Error Unit :=
  match Subject.patternFlaw? pattern with
  | some flaw => .error (.invalidSubject pattern flaw)
  | none => .ok ()

end ClaimRelay.Bus
