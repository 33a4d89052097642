import ClaimRelay.Bus.Error
import ClaimRelay.FileSystem
import ClaimRelay.Text.Utf8

/-! Files of credentials.  A file holds two blocks, a token and a key; a block is a line between two
lines of dashes. -/

namespace ClaimRelay.Nats.Credentials

/-- The lines of a text, without their ends. -/
def lines (text : String) : List (List Char) :=
  (Text.split '\n' text.toList).map fun line =>
    if line.getLast? = some '\r' then line.dropLast else line

/-- Whether a line begins and ends with three dashes. -/
def isBorder (line : List Char) : Bool :=
  let dashes := ['-', '-', '-']
  6 ≤ line.length && dashes.isPrefixOf line && dashes.isSuffixOf line

/-- Whether a line can stand in a block. -/
def isBody (line : List Char) : Bool :=
  line ≠ [] && line.all fun c => c.isAlphanum || c = '_' || c = '-' || c = '.' || c = '='

/-- The lines between borders, in order.  The last border needs a line after it. -/
def blocks : List (List Char) → List (List Char)
  | first :: body :: last :: next :: rest =>
    if isBorder first && isBody body && isBorder last then body :: blocks (next :: rest)
    else blocks (body :: last :: next :: rest)
  | _ => []
termination_by lines => lines.length

/-- Refuses a file that holds no credentials. -/
def check (fs : FileSystem) (path : String) : Except Bus.Error Unit :=
  match fs.read path with
  | .error _ => .error (.credentials (.unreadable path))
  | .ok content =>
    match Text.Utf8.decode content with
    | none => .error (.credentials (.notText path))
    | some text =>
      match blocks (lines text) with
      | [] => .error (.credentials (.noToken path))
      | [_] => .error (.credentials (.noKey path))
      | _ => .ok ()

end ClaimRelay.Nats.Credentials
