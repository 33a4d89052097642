import ClaimRelay.Decimal.Layout
import ClaimRelay.Json.Basic
import ClaimRelay.Text.Quoted

/-! Why a document is refused: it is no JSON, or it is JSON of another shape than the one asked
for. -/

namespace ClaimRelay.Json

/-- What is wrong with a text that is no JSON. -/
inductive Fault where
  | endInList
  | endInObject
  | endInString
  | endInValue
  | expectedColon
  | expectedListCommaOrEnd
  | expectedObjectCommaOrEnd
  | expectedWord
  | expectedValue
  | badEscape
  | badNumber
  | numberOutOfRange
  | badCodePoint
  | controlCharacter
  | nameNotString
  | loneSurrogate
  | trailingComma
  | trailingCharacters
  | endInSurrogatePair
  | tooDeep
deriving DecidableEq, Repr

/-- The message for a fault. -/
def Fault.message : Fault → String
  | .endInList => "EOF while parsing a list"
  | .endInObject => "EOF while parsing an object"
  | .endInString => "EOF while parsing a string"
  | .endInValue => "EOF while parsing a value"
  | .expectedColon => "expected `:`"
  | .expectedListCommaOrEnd => "expected `,` or `]`"
  | .expectedObjectCommaOrEnd => "expected `,` or `\x7d`"
  | .expectedWord => "expected ident"
  | .expectedValue => "expected value"
  | .badEscape => "invalid escape"
  | .badNumber => "invalid number"
  | .numberOutOfRange => "number out of range"
  | .badCodePoint => "invalid unicode code point"
  | .controlCharacter => "control character (\\u0000-\\u001F) found while parsing a string"
  | .nameNotString => "key must be a string"
  | .loneSurrogate => "lone leading surrogate in hex escape"
  | .trailingComma => "trailing comma"
  | .trailingCharacters => "trailing characters"
  | .endInSurrogatePair => "unexpected end of hex escape"
  | .tooDeep => "recursion limit exceeded"

/-- Doubles are positional from `1e-5` to below `1e16`, and an exponent has a sign and at least two
digits. -/
def doubles : Decimal.Layout := ⟨-5, 15, 2⟩

/-- What stands where something else was expected. -/
inductive Found where
  | null
  | bool (value : Bool)
  | integer (value : Int)
  | double (bits : UInt64)
  | string (value : String)
  | list
  | object
deriving DecidableEq, Repr

/-- How a message names what stands there. -/
def Found.message : Found → String
  | .null => "null"
  | .bool b => s!"boolean `{b}`"
  | .integer n => s!"integer `{n}`"
  | .double bits => s!"floating point `{doubles.text bits}`"
  | .string s => s!"string {Text.quote s}"
  | .list => "sequence"
  | .object => "map"

/-- Why a document is refused. -/
inductive ReadError where
  | malformed (fault : Fault)
  | mismatch (found : Found) (expected : String)
  | outOfRange (value : Int) (expected : String)
  | repeated (name : String)
deriving DecidableEq, Repr

/-- The message for a refusal. -/
def ReadError.message : ReadError → String
  | .malformed fault => fault.message
  | .mismatch found expected => s!"invalid type: {found.message}, expected {expected}"
  | .outOfRange value expected => s!"invalid value: integer `{value}`, expected {expected}"
  | .repeated name => s!"duplicate field `{name}`"

end ClaimRelay.Json
