import ClaimRelay.FileSystem
import ClaimRelay.Text.Quoted

/-! Keys and errors of claim stores.  A key names a claim, and may also have to name a file, so it
must not lead out of a directory. -/

namespace ClaimRelay

/-- Why a store refuses to save or to load. -/
inductive Store.Error where
  /-- The text cannot be a key. -/
  | invalidKey (key : String)
  /-- The file system refuses. -/
  | files (reason : FileSystem.Error)
  /-- There is no directory to read from. -/
  | noDirectory (path : String)
  /-- The store is out of order. -/
  | outOfOrder (reason : String)
  /-- The store is not written to. -/
  | readOnly
deriving DecidableEq, Repr

/-- The message for a refusal. -/
def Store.Error.message : Store.Error → String
  | .invalidKey key => s!"Invalid claim key: {Text.quote key}"
  | .files reason => s!"Claim store I/O error: {reason.message}"
  | .noDirectory path => s!"Claim store I/O error: {path} is not a directory"
  | .outOfOrder reason => s!"Claim store I/O error: {reason}"
  | .readOnly => "Claim store is read-only"

namespace Store

/-- Whether two periods stand side by side. -/
def hasDoublePeriod : List Char → Bool
  | '.' :: '.' :: _ => true
  | _ :: rest => hasDoublePeriod rest
  | [] => false

/-- Whether a text can be a key. -/
def isKey (key : String) : Bool :=
  let cs := key.toList
  !(cs.isEmpty || cs.head? = some '.' ||
    cs.any (fun c => c = '/' || c = '\\' || c = '\x00') || hasDoublePeriod cs)

/-- Refuses texts that cannot be keys. -/
def checkKey (key : String) : Except Error Unit :=
  if isKey key then .ok () else .error (.invalidKey key)

end Store

end ClaimRelay
