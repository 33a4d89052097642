import ClaimRelay.Store.Directory
import ClaimRelay.Store.Memory

/-! Claim stores.  A store keeps the latest claim saved under each key, in memory or in a directory;
a store that is out of order keeps nothing. -/

namespace ClaimRelay

/-- A claim store. -/
inductive Store where
  | memory (claims : Store.Memory)
  | directory (directory : Store.Directory)
  | outOfOrder (reason : String)

namespace Store

/-- Opens a store in the directory at `path`. -/
def openDirectory (path : String) (readOnly : Bool) (fs : FileSystem) :
    Except Error Store × FileSystem :=
  if readOnly then ((Directory.openReadOnly path fs).map .directory, fs)
  else
    let (opened, fs) := Directory.create path fs
    (opened.map .directory, fs)

/-- Saves a claim under a key. -/
def save (key : String) (payload : List UInt8) : StateM (Store × FileSystem) (Except Error Unit) :=
  fun (store, fs) =>
    match store with
    | .memory claims =>
      match claims.save key payload with
      | .ok claims => (.ok (), .memory claims, fs)
      | .error e => (.error e, store, fs)
    | .directory dir =>
      let (result, fs) := dir.save key payload fs
      (result, store, fs)
    | .outOfOrder reason => (.error (.outOfOrder reason), store, fs)

/-- The claim saved under a key. -/
def load (store : Store) (key : String) (fs : FileSystem) : Except Error (Option (List UInt8)) :=
  match store with
  | .memory claims => .ok (claims.load key)
  | .directory dir => dir.load key fs
  | .outOfOrder _ => .ok none

end Store

end ClaimRelay
