import ClaimRelay.Claim.Basic
import ClaimRelay.Digest.Sha256
import ClaimRelay.Encoding.Base32
import ClaimRelay.Subject

/-! Hash ids of activations.  An activation is identified by the digest of who grants it, to whom,
and of the imported subject, in which each wildcard token counts as `_`. -/

namespace ClaimRelay

/-- A part that an activation needs for its hash id. -/
inductive HashId.Part where
  | issuer
  | subject
  | importSubject
deriving DecidableEq, Repr

/-- The name of a part. -/
def HashId.Part.label : HashId.Part → String
  | .issuer => "issuer"
  | .subject => "subject"
  | .importSubject => "import subject"

/-- The message about a part that is empty. -/
def HashId.Part.message (part : HashId.Part) : String :=
  s!"Activation claim is missing {part.label}, cannot compute hash id"

namespace HashId

/-- What stands for a token of an imported subject. -/
def cleanToken (token : Subject.Token) : Subject.Token :=
  if token = Subject.single ∨ token = Subject.rest then ['_'] else token

/-- The imported subject with its wildcards replaced. -/
def cleanSubject (subject : String) : List Char :=
  Text.join '.' ((Subject.tokens subject).map cleanToken)

/-- The text that is digested. -/
def base (claim : ActivationClaim) : String :=
  String.ofList <|
    claim.issuer.toList ++ '.' :: claim.subject.toList ++ '.' :: cleanSubject claim.details.subject

/-- The first part that is empty. -/
def missing? (claim : ActivationClaim) : Option Part :=
  if claim.issuer = "" then some .issuer
  else if claim.subject = "" then some .subject
  else if claim.details.subject = "" then some .importSubject
  else none

end HashId

/-- The hash id of an activation: the padded base 32 text of the digest. -/
def ActivationClaim.hashId (claim : ActivationClaim) : Except HashId.Part String :=
  match HashId.missing? claim with
  | some part => .error part
  | none =>
    .ok (String.ofList (Encoding.Base32.encode
      (Digest.Sha256.digest (Text.Utf8.encode (HashId.base claim)))))

end ClaimRelay
