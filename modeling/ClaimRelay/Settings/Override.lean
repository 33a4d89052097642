import ClaimRelay.Notice
import ClaimRelay.Settings.Document
import ClaimRelay.Text.Numeral

/-! Settings from variables.  A variable that is present takes the place of its setting; a number or
a truth value that cannot be read is ignored, with a notice. -/

namespace ClaimRelay

/-- The variables that are present. -/
abbrev Variables := String → Option String

namespace Settings

/-- The setting that the variable `name` gives, or else `current`. -/
def parsedOr {α : Type} (parse : List Char → Option α) (vars : Variables) (name : String)
    (current : α) : α :=
  ((vars name).bind fun raw => parse (Text.trim raw.toList)).getD current

/-- The text that the variable `name` gives, none if it is empty, or else `current`. -/
def textOr (vars : Variables) (name : String) (current : Option String) : Option String :=
  match vars name with
  | some raw => if raw = "" then none else some raw
  | none => current

/-- The addresses between the commas of a text, without the blank ones. -/
def addresses (text : String) : List String :=
  (((Text.split ',' text.toList).map Text.trim).filter (· ≠ [])).map String.ofList

/-- The settings with every variable that is present. -/
def override (vars : Variables) (settings : Settings) : Settings where
  servers := ((vars "CLAIM_NOTIFY_SERVERS").map addresses).getD settings.servers
  maxReconnects :=
    parsedOr Text.int32? vars "CLAIM_NOTIFY_MAX_RECONNECTS" settings.maxReconnects
  reconnectWait :=
    parsedOr Text.uint64? vars "CLAIM_NOTIFY_RECONNECT_WAIT_MS" settings.reconnectWait
  connectTimeout :=
    parsedOr Text.uint64? vars "CLAIM_NOTIFY_CONNECT_TIMEOUT_MS" settings.connectTimeout
  tls :=
    { root := textOr vars "CLAIM_NOTIFY_TLS_ROOT" settings.tls.root
      certificate := textOr vars "CLAIM_NOTIFY_TLS_CERT" settings.tls.certificate
      key := textOr vars "CLAIM_NOTIFY_TLS_KEY" settings.tls.key }
  credentials := textOr vars "CLAIM_NOTIFY_CREDENTIALS" settings.credentials
  primary := parsedOr Text.bool? vars "CLAIM_NOTIFY_PRIMARY" settings.primary
  cacheTtl := parsedOr Text.uint64? vars "CLAIM_NOTIFY_CACHE_TTL_SECS" settings.cacheTtl
  name := textOr vars "CLAIM_NOTIFY_NAME" settings.name

/-- The notice of a variable whose text cannot be read. -/
def ignored {α : Type} (parse : List Char → Option α) (vars : Variables) (name : String) :
    List Notice :=
  match vars name with
  | none => []
  | some raw =>
    if (parse (Text.trim raw.toList)).isSome then []
    else [⟨.warn, "claim_notify::config", "Ignoring unparseable configuration override",
      [("key", Text.quote name), ("value", raw)]⟩]

/-- The notices of all variables whose texts cannot be read. -/
def overrideNotices (vars : Variables) : List Notice :=
  ignored Text.int32? vars "CLAIM_NOTIFY_MAX_RECONNECTS" ++
  ignored Text.uint64? vars "CLAIM_NOTIFY_RECONNECT_WAIT_MS" ++
  ignored Text.uint64? vars "CLAIM_NOTIFY_CONNECT_TIMEOUT_MS" ++
  ignored Text.bool? vars "CLAIM_NOTIFY_PRIMARY" ++
  ignored Text.uint64? vars "CLAIM_NOTIFY_CACHE_TTL_SECS"

/-- The settings of the file that the variables name, or the defaults, with the variables that are
present. -/
def load (fs : FileSystem) (vars : Variables) : Except Error Settings := do
  let base ←
    match vars "CLAIM_NOTIFY_CONFIG" with
    | some path => if path = "" then pure {} else ofFile fs path
    | none => pure {}
  return base.override vars

end Settings

end ClaimRelay
