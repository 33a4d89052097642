import ClaimRelay.Subject

/-! Notifications that a claim has changed, and the subjects they are sent on.  A subject is made
from a template by putting the account, and for an activation its hash id, in the place of a
placeholder; the pattern that covers every notification of a kind has the wildcard for one token
there. -/

namespace ClaimRelay

/-- The two kinds of notification. -/
inductive Notification where
  /-- An account claim has changed. -/
  | accountUpdate
  /-- An activation claim has been issued. -/
  | activation
deriving DecidableEq, Repr

namespace Notification

/-- Both kinds, in the order in which a server subscribes to them. -/
def all : List Notification := [.accountUpdate, .activation]

/-- The name of a kind. -/
def label : Notification → String
  | .accountUpdate => "account_update"
  | .activation => "activation"

/-- The template for the subjects of a kind. -/
def template : Notification → List Char
  | .accountUpdate => "SYS.ACCOUNT.%s.CLAIMS.UPDATE".toList
  | .activation => "SYS.ACCOUNT.%s.CLAIMS.ACTIVATE.%s".toList

/-- The text with `value` in the place of its first placeholder. -/
def fillFirst (value : List Char) : List Char → List Char
  | [] => []
  | [c] => [c]
  | c :: d :: rest =>
    if c = '%' ∧ d = 's' then value ++ rest else c :: fillFirst value (d :: rest)

/-- The text with `value` in the place of every placeholder. -/
def fillAll (value : List Char) : List Char → List Char
  | [] => []
  | [c] => [c]
  | c :: d :: rest =>
    if c = '%' ∧ d = 's' then value ++ fillAll value rest else c :: fillAll value (d :: rest)

/-- The subject for an update of `account`. -/
def accountSubject (account : String) : String :=
  String.ofList (fillFirst account.toList accountUpdate.template)

/-- The subject for an activation with the hash id `hash`, granted to `account`.  The hash is put in
last, so it goes to the first placeholder that the account brings with it, if there is one. -/
def activationSubject (account hash : String) : String :=
  String.ofList (fillFirst hash.toList (fillFirst account.toList activation.template))

/-- The pattern that covers every notification of a kind. -/
def pattern (kind : Notification) : String := String.ofList (fillAll ['*'] kind.template)

end Notification

end ClaimRelay
