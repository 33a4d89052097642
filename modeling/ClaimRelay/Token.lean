import ClaimRelay.Claim.Basic
import ClaimRelay.Encoding.Base64Url
import ClaimRelay.Text.Blank
import ClaimRelay.Text.Split

/-! Tokens.  A token carries a claim as text: a header, the claim and a signature, each in URL-safe
base 64, joined by periods.  The header must declare the token to be a JWT and the claim must be of
the kind that is asked for; the signature is not looked at. -/

namespace ClaimRelay.Token

/-- A part of a token that is read. -/
inductive Segment where
  | header
  | payload
deriving DecidableEq, Repr

/-- The name of a part. -/
def Segment.label : Segment → String
  | .header => "header"
  | .payload => "payload"

/-- Why a token is refused. -/
inductive Error where
  | notUtf8
  /-- It has another number of parts than three. -/
  | malformed (segments : Nat)
  | badBase64 (segment : Segment) (reason : Encoding.Base64Url.Error)
  | badJson (segment : Segment) (reason : Json.ReadError)
  /-- Its header declares another type of token. -/
  | unsupportedType (found : String)
  /-- Its claim declares another kind of claim. -/
  | wrongClaimType (expected found : String)
deriving DecidableEq, Repr

/-- The message for a refusal. -/
def Error.message : Error → String
  | .notUtf8 => "Claim token is not valid UTF-8"
  | .malformed segments => s!"Malformed token: expected 3 segments, found {segments}"
  | .badBase64 segment reason =>
    s!"Invalid base64 in {segment.label} segment: {reason.message}"
  | .badJson segment reason => s!"Invalid JSON in {segment.label} segment: {reason.message}"
  | .unsupportedType found => s!"Unsupported token type: {found}"
  | .wrongClaimType expected found => s!"Wrong claim type: expected {expected}, found {found}"

/-! ### Writing -/

/-- The header of every token that is written. -/
def header : String := "\x7b\"typ\":\"jwt\",\"alg\":\"ed25519\"\x7d"

/-- The signature segment of every token that is written.  It signs nothing. -/
def signature : String := "dGVzdC1zaWduYXR1cmU"

/-- The token that carries `claims`. -/
def encode (claims : Json) : List UInt8 :=
  let period : UInt8 := 0x2E
  Encoding.Base64Url.encode (Text.Utf8.encode header) ++ period ::
    Encoding.Base64Url.encode claims.bytes ++ period :: Text.Utf8.encode signature

/-! ### Reading -/

/-- The header and claim segments of a token. -/
def segments (token : List UInt8) : Except Error (List Char × List Char) :=
  match Text.Utf8.decode token with
  | none => .error .notUtf8
  | some text =>
    match Text.split '.' (Text.trim text.toList) with
    | [header, payload, _] => .ok (header, payload)
    | parts => .error (.malformed parts.length)

/-- The bytes of a segment.  Padding at its end is allowed and ignored. -/
def segmentBytes (segment : Segment) (text : List Char) : Except Error (List UInt8) :=
  let symbols := Text.Utf8.encode (String.ofList (Text.dropSuffix (· = '=') text))
  match Encoding.Base64Url.decode symbols with
  | .error reason => .error (.badBase64 segment reason)
  | .ok bytes => .ok bytes

/-- The record that a segment holds. -/
def readSegment {σ : Type} (segment : Segment) (schema : Json.Schema σ) (start : σ)
    (text : List Char) : Except Error σ := do
  let bytes ← segmentBytes segment text
  match schema.readDocument start bytes with
  | .error reason => .error (.badJson segment reason)
  | .ok record => .ok record

/-- How a header is read: for the type of token that it declares. -/
def headerSchema : Json.Schema String :=
  ⟨"Header", [⟨"typ", fun _ _ => Json.readText "a string"⟩]⟩

/-- Whether a header's type names a JWT; the case of its letters does not matter. -/
def isJwt (type : String) : Bool := type.toList.map Char.toLower = ['j', 'w', 't']

/-- The record that the claim segment holds, for any kind of claim. -/
def readClaim {σ : Type} (schema : Json.Schema σ) (start : σ) (token : List UInt8) :
    Except Error σ := do
  let (header, payload) ← segments token
  let type ← readSegment .header headerSchema "" header
  if isJwt type then readSegment .payload schema start payload
  else .error (.unsupportedType type)

/-- Refuses a claim that declares another kind than the expected one.  A claim need not declare
any. -/
def checkKind (expected : String) (declared : Option String) : Except Error Unit :=
  match declared with
  | some found => if found = expected then .ok () else .error (.wrongClaimType expected found)
  | none => .ok ()

/-- The account claim that a token carries. -/
def decodeAccount (token : List UInt8) : Except Error AccountClaim := do
  let claim ← readClaim Claim.accountSchema { details := none } token
  checkKind "account" (AccountClaim.declaredKind claim)
  return claim

/-- The activation claim that a token carries. -/
def decodeActivation (token : List UInt8) : Except Error ActivationClaim := do
  let claim ← readClaim Claim.activationSchema { details := {} } token
  checkKind "activation" (ActivationClaim.declaredKind claim)
  return claim

/-! ### Sample tokens -/

/-- The members that every sample token has. -/
def sampleMembers (id issuer name subject kind : String) : List (String × Json) :=
  [("jti", .string s!"jti-{id}"), ("iat", Json.ofUInt64 1560000000), ("iss", .string issuer),
   ("name", .string name), ("sub", .string subject), ("type", .string kind)]

/-- A token that carries a claim about `account`. -/
def sampleAccount (account : String) : List UInt8 :=
  encode (Json.ofMembers (sampleMembers account "OPERATOR" "test account" account "account"))

/-- A token that lets `importer` import `subject` from `exporter`. -/
def sampleActivation (exporter importer subject : String) : List UInt8 :=
  encode <| Json.ofMembers <|
    sampleMembers importer exporter "test activation" importer "activation" ++
    [("nats", Json.ofMembers [("subject", .string subject), ("kind", .string "stream")])]

end ClaimRelay.Token
