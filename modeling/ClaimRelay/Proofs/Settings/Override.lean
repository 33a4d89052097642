import ClaimRelay.Settings.Override
import Mathlib.Logic.Function.Basic
import Mathlib.Tactic.SplitIfs

/-! Settings under layers of variables.  Every setting has a variable of its own, and a text of that variable
either says what the setting is to be or cannot be read and is passed over.  This one rule covers lists,
numbers, truth values and paths alike, so two layers of variables act as one layer, in which the upper one
goes first. -/

namespace ClaimRelay

namespace Settings

/-! ### Single settings -/

/-- One of the settings. -/
inductive Field where
  | servers
  | maxReconnects
  | reconnectWait
  | connectTimeout
  | tlsRoot
  | tlsCertificate
  | tlsKey
  | credentials
  | primary
  | cacheTtl
  | name
deriving DecidableEq, Repr

namespace Field

/-- What a setting can be. -/
def Value : Field → Type
  | .servers => List String
  | .maxReconnects => Int32
  | .reconnectWait | .connectTimeout | .cacheTtl => UInt64
  | .primary => Bool
  | .tlsRoot | .tlsCertificate | .tlsKey | .credentials | .name => Option String

/-- What a setting is. -/
def get : (field : Field) → Settings → field.Value
  | .servers, settings => settings.servers
  | .maxReconnects, settings => settings.maxReconnects
  | .reconnectWait, settings => settings.reconnectWait
  | .connectTimeout, settings => settings.connectTimeout
  | .tlsRoot, settings => settings.tls.root
  | .tlsCertificate, settings => settings.tls.certificate
  | .tlsKey, settings => settings.tls.key
  | .credentials, settings => settings.credentials
  | .primary, settings => settings.primary
  | .cacheTtl, settings => settings.cacheTtl
  | .name, settings => settings.name

/-- The name of the variable for a setting. -/
def variableName : Field → String
  | .servers => "CLAIM_NOTIFY_SERVERS"
  | .maxReconnects => "CLAIM_NOTIFY_MAX_RECONNECTS"
  | .reconnectWait => "CLAIM_NOTIFY_RECONNECT_WAIT_MS"
  | .connectTimeout => "CLAIM_NOTIFY_CONNECT_TIMEOUT_MS"
  | .tlsRoot => "CLAIM_NOTIFY_TLS_ROOT"
  | .tlsCertificate => "CLAIM_NOTIFY_TLS_CERT"
  | .tlsKey => "CLAIM_NOTIFY_TLS_KEY"
  | .credentials => "CLAIM_NOTIFY_CREDENTIALS"
  | .primary => "CLAIM_NOTIFY_PRIMARY"
  | .cacheTtl => "CLAIM_NOTIFY_CACHE_TTL_SECS"
  | .name => "CLAIM_NOTIFY_NAME"

/-- What a text of its variable says that a setting is to be.  Only a number or a truth value may fail to
say anything: a list leaves its blank items out, and an empty path or name is none. -/
def read? : (field : Field) → String → Option field.Value
  | .servers, text => some (addresses text)
  | .maxReconnects, text => Text.int32? (Text.trim text.toList)
  | .reconnectWait, text | .connectTimeout, text | .cacheTtl, text =>
    Text.uint64? (Text.trim text.toList)
  | .primary, text => Text.bool? (Text.trim text.toList)
  | .tlsRoot, text | .tlsCertificate, text | .tlsKey, text | .credentials, text | .name, text =>
    some (if text = "" then none else some text)

theorem variableName_injective : Function.Injective variableName := by
  intro field other h
  cases field <;> cases other <;> simp [variableName] at h ⊢

end Field

/-- There is nothing to settings but the single ones. -/
theorem eq_of_get {settings others : Settings}
    (h : ∀ field : Field, field.get settings = field.get others) : settings = others := by
  obtain ⟨servers, maxReconnects, reconnectWait, connectTimeout, ⟨root, certificate, key⟩, credentials,
    primary, cacheTtl, name⟩ := settings
  obtain ⟨servers', maxReconnects', reconnectWait', connectTimeout', ⟨root', certificate', key'⟩,
    credentials', primary', cacheTtl', name'⟩ := others
  rw [Settings.mk.injEq, Bus.Tls.mk.injEq]
  exact ⟨h .servers, h .maxReconnects, h .reconnectWait, h .connectTimeout,
    ⟨h .tlsRoot, h .tlsCertificate, h .tlsKey⟩, h .credentials, h .primary, h .cacheTtl, h .name⟩

theorem textOr_eq (vars : Variables) (name : String) (current : Option String) :
    textOr vars name current =
      ((vars name).bind fun text => some (if text = "" then none else some text)).getD current := by
  unfold textOr
  cases vars name <;> rfl

/-- A setting is what its own variable says, and it stays if that says nothing.  All that follows about
variables rests on this. -/
theorem Field.get_override (field : Field) (vars : Variables) (settings : Settings) :
    field.get (settings.override vars) =
      ((vars field.variableName).bind field.read?).getD (field.get settings) := by
  cases field with
  | servers => exact congrArg (Option.getD · settings.servers) Option.map_eq_bind
  | maxReconnects | reconnectWait | connectTimeout | primary | cacheTtl => rfl
  | tlsRoot | tlsCertificate | tlsKey | credentials | name => exact textOr_eq ..

theorem Field.get_override_update {field : Field} {name : String} (h : field.variableName ≠ name)
    (settings : Settings) (vars : Variables) (text : Option String) :
    field.get (settings.override (Function.update vars name text)) =
      field.get (settings.override vars) := by
  rw [field.get_override, field.get_override, Function.update_of_ne h]

theorem override_none (settings : Settings) : settings.override (fun _ => none) = settings :=
  eq_of_get fun field => field.get_override _ settings

/-! ### Two layers -/

/-- Whether a text counts for the variable with the given name.  A number or a truth value must be one, apart
from blanks around it; for any other variable every text counts, the empty one too. -/
def counts (name text : String) : Bool :=
  let trimmed := Text.trim text.toList
  match name with
  | "CLAIM_NOTIFY_MAX_RECONNECTS" => (Text.int32? trimmed).isSome
  | "CLAIM_NOTIFY_RECONNECT_WAIT_MS" | "CLAIM_NOTIFY_CONNECT_TIMEOUT_MS"
  | "CLAIM_NOTIFY_CACHE_TTL_SECS" => (Text.uint64? trimmed).isSome
  | "CLAIM_NOTIFY_PRIMARY" => (Text.bool? trimmed).isSome
  | _ => true

theorem counts_variableName (field : Field) (text : String) :
    counts field.variableName text = (field.read? text).isSome := by
  cases field <;> rfl

end Settings

/-- Two layers of variables as one.  A variable is taken from the upper layer if it is there and its text
counts, and from the lower layer otherwise. -/
def Variables.above (upper lower : Variables) : Variables := fun name =>
  match upper name with
  | some text => if Settings.counts name text then some text else lower name
  | none => lower name

theorem Variables.above_self (vars : Variables) : vars.above vars = vars := by
  funext name
  unfold Variables.above
  cases vars name with
  | none => rfl
  | some text => exact ite_self (some text)

namespace Settings

theorem Field.read?_above (field : Field) (upper lower : Variables) :
    (upper.above lower field.variableName).bind field.read? =
      ((upper field.variableName).bind field.read?).or
        ((lower field.variableName).bind field.read?) := by
  unfold Variables.above
  cases upper field.variableName with
  | none => rfl
  | some text =>
    dsimp only
    rw [counts_variableName, Option.bind_some]
    cases hread : field.read? text with
    | none => rfl -- The text is passed over on both sides, and the lower layer is asked.
    | some value => exact hread

theorem override_override (settings : Settings) (lower upper : Variables) :
    (settings.override lower).override upper = settings.override (upper.above lower) := by
  apply eq_of_get
  intro field
  rw [field.get_override upper, field.get_override lower, field.get_override (upper.above lower),
    field.read?_above, Option.getD_or]

theorem override_twice (settings : Settings) (vars : Variables) :
    (settings.override vars).override vars = settings.override vars := by
  rw [override_override, Variables.above_self]

/-! ### Blank addresses -/

theorem validate_eq_emptyServer_iff {settings : Settings} {index : Nat} :
    settings.validate = .error (.emptyServer index) ↔
      settings.servers.findIdx? (fun server => Text.allBlank server.toList) = some index := by
  unfold validate
  simp only [bind, Except.bind, throw, throwThe, MonadExceptOf.throw, pure, Except.pure]
  cases settings.servers.findIdx? fun server => Text.allBlank server.toList with
  | some found => simp
  | none =>
    -- What is checked after the addresses has refusals of its own.
    simp only [reduceCtorEq, iff_false]
    split
    · simp
    · simp
    · split_ifs <;> simp

theorem allBlank_of_mem_addresses {text address : String} (h : address ∈ addresses text) :
    Text.allBlank address.toList = false := by
  obtain ⟨piece, hpiece, rfl⟩ := List.mem_map.mp h
  obtain ⟨htrimmed, hkept⟩ := List.mem_filter.mp hpiece
  obtain ⟨cs, -, rfl⟩ := List.mem_map.mp htrimmed
  rw [String.toList_ofList]
  exact Text.allBlank_trim (of_decide_eq_true hkept)

/-- A variable for the servers takes the place of blank addresses, and brings none itself. -/
theorem validate_override_ne_emptyServer {vars : Variables}
    (h : (vars "CLAIM_NOTIFY_SERVERS").isSome) (settings : Settings) (index : Nat) :
    (settings.override vars).validate ≠ .error (.emptyServer index) := by
  obtain ⟨text, htext⟩ := Option.isSome_iff_exists.mp h
  have hservers : (settings.override vars).servers = addresses text := by simp [override, htext]
  have hnone : (addresses text).findIdx? (fun server => Text.allBlank server.toList) = none :=
    List.findIdx?_eq_none_iff.mpr fun _ => allBlank_of_mem_addresses
  intro herror
  rw [validate_eq_emptyServer_iff, hservers, hnone] at herror
  contradiction

/-- Layers of variables compose.  Two of them act as one, in which a variable is taken from the upper layer if
its text counts there and from the lower layer otherwise.  A setting is what its own variable says or else
stays as it was, and no other variable touches it.  An empty layer changes nothing, the same layer twice is the
layer once, and if a variable gives the servers, then no address is refused as blank. -/
theorem overrides_compose (settings : Settings) (lower upper : Variables) :
    (settings.override lower).override upper = settings.override (upper.above lower) ∧
    (∀ field : Field, field.get (settings.override lower) =
      ((lower field.variableName).bind field.read?).getD (field.get settings)) ∧
    Function.Injective Field.variableName ∧
    (∀ (name : String) (text : Option String) (field : Field), field.variableName ≠ name →
      field.get (settings.override (Function.update lower name text)) =
        field.get (settings.override lower)) ∧
    settings.override (fun _ => none) = settings ∧
    (settings.override lower).override lower = settings.override lower ∧
    ((lower "CLAIM_NOTIFY_SERVERS").isSome →
      ∀ index, (settings.override lower).validate ≠ .error (.emptyServer index)) := by
  refine ⟨override_override settings lower upper, ?_, Field.variableName_injective, ?_,
    override_none settings, override_twice settings lower, ?_⟩
  · intro field
    exact field.get_override lower settings
  · intro name text field hname
    exact Field.get_override_update hname settings lower text
  · intro hservers
    exact validate_override_ne_emptyServer hservers settings

/-- The lower layer replaces a blank address, whatever it says of the name.  Of the upper layer, the time cannot
be read, so that of the lower layer stands, and the empty name takes away the name that the lower layer gave. -/
theorem blank_server_overridden :
    let settings : Settings := { servers := [" "] }
    let lower : Variables := Table.get?
      [("CLAIM_NOTIFY_SERVERS", " ,bus://a:4222,"), ("CLAIM_NOTIFY_CONNECT_TIMEOUT_MS", " 700 "),
       ("CLAIM_NOTIFY_NAME", "relay")]
    let upper : Variables := Table.get?
      [("CLAIM_NOTIFY_CONNECT_TIMEOUT_MS", "soon"), ("CLAIM_NOTIFY_NAME", "")]
    settings.validate = .error (.emptyServer 0) ∧ (lower "CLAIM_NOTIFY_SERVERS").isSome ∧
    (∀ index, (settings.override lower).validate ≠ .error (.emptyServer index)) ∧
    Field.servers.variableName ≠ "CLAIM_NOTIFY_NAME" ∧
    (settings.override (Function.update lower "CLAIM_NOTIFY_NAME" none)).servers =
      (settings.override lower).servers ∧
    (settings.override lower).override upper =
      { servers := ["bus://a:4222"], connectTimeout := 700 } := by
  intro settings lower upper
  have hservers : (lower "CLAIM_NOTIFY_SERVERS").isSome := rfl
  have hname : Field.servers.variableName ≠ "CLAIM_NOTIFY_NAME" := by decide
  obtain ⟨hlayers, -, -, hothers, -, -, hvalid⟩ := overrides_compose settings lower upper
  refine ⟨rfl, hservers, hvalid hservers, hname, hothers _ none .servers hname, hlayers.trans ?_⟩
  decide

end Settings

end ClaimRelay
