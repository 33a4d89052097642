import ClaimRelay.Settings.Basic

/-! Settings as a document.  A setting that the document does not give keeps its default. -/

namespace ClaimRelay.Settings

open Json

/-- A text, or null for none. -/
def optionalText (value : Option String) : Json :=
  match value with
  | some text => .string text
  | none => .null

/-- The settings as a document. -/
def toJson (settings : Settings) : Json :=
  Json.ofMembers
    [("servers", .array (settings.servers.map .string)),
     ("max_reconnects", Json.ofInt64 settings.maxReconnects.toInt64),
     ("reconnect_wait_ms", Json.ofUInt64 settings.reconnectWait),
     ("connect_timeout_ms", Json.ofUInt64 settings.connectTimeout),
     ("tls", Json.ofMembers
       [("root", optionalText settings.tls.root),
        ("cert", optionalText settings.tls.certificate),
        ("key", optionalText settings.tls.key)]),
     ("user_credentials", optionalText settings.credentials),
     ("primary", .bool settings.primary),
     ("cache_ttl_secs", Json.ofUInt64 settings.cacheTtl),
     ("connection_name", optionalText settings.name)]

/-- A field that holds a path or nothing. -/
def pathField {σ : Type} (name : String) (set : σ → Option String → σ) : RecordField σ :=
  ⟨name, fun _ record => return set record (← readOption (readText "path string"))⟩

/-- A field that holds a whole number without a sign. -/
def wordField {σ : Type} (name : String) (set : σ → UInt64 → σ) : RecordField σ :=
  ⟨name, fun _ record => return set record (UInt64.ofNat (← readInteger .u64).toNat)⟩

/-- How the files for a secured connection are read. -/
def tlsSchema : Schema Bus.Tls :=
  ⟨"TlsConfig",
    [pathField "root" fun tls path => { tls with root := path },
     pathField "cert" fun tls path => { tls with certificate := path },
     pathField "key" fun tls path => { tls with key := path }]⟩

/-- How settings are read. -/
def schema : Schema Settings :=
  ⟨"NotifyConfig",
    [⟨"servers", fun depth s => return { s with servers := ← readList depth (readText "a string") }⟩,
     ⟨"max_reconnects", fun _ s =>
       return { s with maxReconnects := Int32.ofInt (← readInteger .i32) }⟩,
     wordField "reconnect_wait_ms" fun s n => { s with reconnectWait := n },
     wordField "connect_timeout_ms" fun s n => { s with connectTimeout := n },
     ⟨"tls", fun depth s => return { s with tls := ← tlsSchema.read depth {} }⟩,
     pathField "user_credentials" fun s path => { s with credentials := path },
     ⟨"primary", fun _ s => return { s with primary := ← readBool }⟩,
     wordField "cache_ttl_secs" fun s n => { s with cacheTtl := n },
     ⟨"connection_name", fun _ s =>
       return { s with name := ← readOption (readText "a string") }⟩]⟩

/-- The settings in a document. -/
def ofBytes (bytes : List UInt8) : Except ReadError Settings := schema.readDocument {} bytes

/-- The settings in the file that `path` leads to. -/
def ofFile (fs : FileSystem) (path : String) : Except Error Settings :=
  match fs.read path with
  | .error reason => .error (.unreadable path reason)
  | .ok bytes =>
    match ofBytes bytes with
    | .error reason => .error (.malformed path reason)
    | .ok settings => .ok settings

end ClaimRelay.Settings
