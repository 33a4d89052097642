import ClaimRelay.Bus.Error
import ClaimRelay.FileSystem

/-! What an attempt to connect to the bus asks for.  Times are in milliseconds. -/

namespace ClaimRelay.Bus

/-- The files for a secured connection. -/
structure Tls where
  /-- The certificates that are trusted. -/
  root : Option String := none
  /-- The certificate to present. -/
  certificate : Option String := none
  /-- Its key. -/
  key : Option String := none
deriving DecidableEq, Repr

/-- Whether a secured connection is asked for. -/
def Tls.isEnabled (tls : Tls) : Bool := tls.root.isSome || tls.certificate.isSome

/-- What an attempt to connect asks for. -/
structure Options where
  /-- The addresses of the servers, tried in order. -/
  servers : List String
  /-- How often a lost connection is tried again; a negative number is no limit. -/
  maxReconnects : Int32 := 60
  reconnectWait : UInt64 := 2000
  connectTimeout : UInt64 := 2000
  tls : Tls := {}
  /-- The file of credentials. -/
  credentials : Option String := none
  /-- The name that the connection gives itself. -/
  name : Option String := none
deriving DecidableEq, Repr

namespace Options

/-- The servers, joined by commas. -/
def serverList (options : Options) : String := ",".intercalate options.servers

/-- Refuses a path that does not lead to a file. -/
def requireFile (fs : FileSystem) (refusal : String → Error) (path : String) : Except Error Unit :=
  if fs.isFile path then .ok () else .error (refusal path)

/-- Refuses a file that is asked for and is not there. -/
def requireOptional (fs : FileSystem) (refusal : String → Error) (path : Option String) :
    Except Error Unit :=
  match path with
  | some path => requireFile fs refusal path
  | none => .ok ()

/-- The refusal of an unreadable file for a secured connection. -/
def unreadableTls (path : String) : Error := .tls (.unreadable path)

/-- The refusal of an unreadable file of credentials. -/
def unreadableCredentials (path : String) : Error := .credentials (.unreadable path)

/-- Refuses options whose files are not all there; a certificate and its key come together. -/
def check (options : Options) (fs : FileSystem) : Except Error Unit := do
  requireOptional fs unreadableTls options.tls.root
  match options.tls.certificate, options.tls.key with
  | some certificate, some key =>
    requireFile fs unreadableTls certificate
    requireFile fs unreadableTls key
  | some _, none => throw (.tls .certificateWithoutKey)
  | none, some _ => throw (.tls .keyWithoutCertificate)
  | none, none => pure ()
  requireOptional fs unreadableCredentials options.credentials

end Options

end ClaimRelay.Bus
