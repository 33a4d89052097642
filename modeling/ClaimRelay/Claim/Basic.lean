import ClaimRelay.Json.Printer
import ClaimRelay.Json.Record

/-! Claims: what a token states about an account.  The claims of both kinds share their registered
fields and differ in the section that describes their object: an account claim leaves it open, and
an activation claim says there which subject the account may import. -/

namespace ClaimRelay

/-- A claim whose own section has the type `Details`. -/
structure Claim (Details : Type) where
  /-- The account that the claim is about. -/
  subject : String := ""
  /-- Who issued the claim. -/
  issuer : String := ""
  /-- When it was issued, in seconds. -/
  issuedAt : Int64 := 0
  /-- When it expires, in seconds, or zero. -/
  expires : Int64 := 0
  tokenId : String := ""
  name : String := ""
  /-- The kind that the claim declares at its top level. -/
  declared : Option String := none
  details : Details

/-- What an activation lets an account import. -/
structure Import where
  /-- The imported subject, which may hold wildcards. -/
  subject : String := ""
  /-- Whether a stream or a service is imported. -/
  kind : String := ""
  /-- The kind of claim that the section declares. -/
  declared : Option String := none
deriving DecidableEq, Repr

/-- A claim about an account. -/
abbrev AccountClaim := Claim (Option Json)

/-- A claim that lets an account import a subject of another one. -/
abbrev ActivationClaim := Claim Import

namespace Claim

/-- A claim without a subject identifies nothing. -/
def isEmpty {Details : Type} (claim : Claim Details) : Bool := claim.subject = ""

/-- A member of an object that is left out when there is no value for it. -/
def optional (name : String) (value : Option Json) : List (String × Json) :=
  match value with
  | some value => [(name, value)]
  | none => []

/-- The members that both kinds of claim have. -/
def registered {Details : Type} (claim : Claim Details) : List (String × Json) :=
  [("sub", .string claim.subject), ("iss", .string claim.issuer),
   ("iat", Json.ofInt64 claim.issuedAt), ("exp", Json.ofInt64 claim.expires),
   ("jti", .string claim.tokenId), ("name", .string claim.name)] ++
  optional "type" (claim.declared.map .string)

end Claim

/-- The section of an import as a value. -/
def Import.toJson (details : Import) : Json :=
  Json.ofMembers <|
    [("subject", .string details.subject)] ++
    (if details.kind = "" then [] else [("kind", .string details.kind)]) ++
    Claim.optional "type" (details.declared.map .string)

/-- An account claim as a value. -/
def AccountClaim.toJson (claim : AccountClaim) : Json :=
  Json.ofMembers (claim.registered ++ Claim.optional "nats" claim.details)

/-- An activation claim as a value. -/
def ActivationClaim.toJson (claim : ActivationClaim) : Json :=
  Json.ofMembers (claim.registered ++ [("nats", claim.details.toJson)])

namespace Claim

open Json

/-- A field that holds a text. -/
def textField {σ : Type} (name : String) (set : σ → String → σ) : RecordField σ :=
  ⟨name, fun _ record => return set record (← readText "a string")⟩

/-- A field that holds a text or nothing. -/
def optionalField {σ : Type} (name : String) (set : σ → Option String → σ) : RecordField σ :=
  ⟨name, fun _ record => return set record (← readOption (readText "a string"))⟩

/-- A field that holds a time in seconds. -/
def timeField {σ : Type} (name : String) (set : σ → Int64 → σ) : RecordField σ :=
  ⟨name, fun _ record => return set record (Int64.ofInt (← readInteger .i64))⟩

/-- The fields that both kinds of claim have, in order. -/
def registeredFields (Details : Type) : List (RecordField (Claim Details)) :=
  [textField "sub" fun c s => { c with subject := s },
   textField "iss" fun c s => { c with issuer := s },
   timeField "iat" fun c t => { c with issuedAt := t },
   timeField "exp" fun c t => { c with expires := t },
   textField "jti" fun c s => { c with tokenId := s },
   textField "name" fun c s => { c with name := s },
   optionalField "type" fun c s => { c with declared := s }]

/-- How an account claim is read. -/
def accountSchema : Schema AccountClaim :=
  ⟨"AccountClaim", registeredFields _ ++
    [⟨"nats", fun depth c => do
      return { c with details := ← readOption (do readValue (← steps) depth) }⟩]⟩

/-- How the section of an import is read. -/
def importSchema : Schema Import :=
  ⟨"ImportDetails",
    [textField "subject" fun i s => { i with subject := s },
     textField "kind" fun i s => { i with kind := s },
     optionalField "type" fun i s => { i with declared := s }]⟩

/-- How an activation claim is read. -/
def activationSchema : Schema ActivationClaim :=
  ⟨"ActivationClaim", registeredFields _ ++
    [⟨"nats", fun depth c => return { c with details := ← importSchema.read depth {} }⟩]⟩

end Claim

/-- The kind that an account claim declares: at its top level, or else in its own section. -/
def AccountClaim.declaredKind (claim : AccountClaim) : Option String :=
  claim.declared <|> (claim.details.bind (Json.member? "type")).bind Json.text?

/-- The kind that an activation claim declares: at its top level, or else in its own section. -/
def ActivationClaim.declaredKind (claim : ActivationClaim) : Option String :=
  claim.declared <|> claim.details.declared

end ClaimRelay
