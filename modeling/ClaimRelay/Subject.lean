import ClaimRelay.Text.Blank
import ClaimRelay.Text.Split

/-! Subjects and patterns.  A subject is a text of tokens joined by periods, and a message is
published on one.  A pattern is written in the same way and may hold two wildcards: `*` stands for
any one token, and `>` at the end stands for one or more tokens. -/

namespace ClaimRelay.Subject

/-- A part of a subject between periods. -/
abbrev Token := List Char

/-- The wildcard for one token. -/
def single : Token := ['*']

/-- The wildcard for one or more tokens at the end. -/
def rest : Token := ['>']

/-- The tokens of a subject or pattern. -/
def tokens (s : String) : List Token := Text.split '.' s.toList

/-- What is wrong with a subject or a pattern. -/
inductive Flaw where
  | empty
  | blank
  | emptyToken
  | wildcard
  | restNotLast
deriving DecidableEq, Repr

/-- The message for a flaw. -/
def Flaw.message : Flaw → String
  | .empty => "subject is empty"
  | .blank => "subject contains whitespace"
  | .emptyToken => "subject contains an empty token"
  | .wildcard => "wildcards are not allowed in publish subjects"
  | .restNotLast => "'>' must be the last token"

/-- The first flaw that neither a subject nor a pattern may have. -/
def tokenFlaw? (s : String) : Option Flaw :=
  if s.toList = [] then some .empty
  else if s.toList.any Text.isBlank then some .blank
  else if (tokens s).any (· = []) then some .emptyToken
  else none

/-- The first flaw of a subject to publish on. -/
def subjectFlaw? (s : String) : Option Flaw :=
  match tokenFlaw? s with
  | some flaw => some flaw
  | none => if (tokens s).any fun t => t = single ∨ t = rest then some .wildcard else none

/-- The first flaw of a pattern to subscribe to. -/
def patternFlaw? (s : String) : Option Flaw :=
  match tokenFlaw? s with
  | some flaw => some flaw
  | none => if (tokens s).dropLast.any (· = rest) then some .restNotLast else none

/-- Whether the tokens of a pattern cover the tokens of a subject, compared one by one. -/
def covers : List Token → List Token → Bool
  | [], [] => true
  | p :: ps, t :: ts =>
    if p = rest then true else if p = single ∨ p = t then covers ps ts else false
  | _, _ => false

/-- Whether a subject matches a pattern.  Neither is checked. -/
def isMatch (pattern subject : String) : Bool := covers (tokens pattern) (tokens subject)

end ClaimRelay.Subject
