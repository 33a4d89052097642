import ClaimRelay.Store.Basic

/-! A store in a directory, with one file for each key.  A claim is written to a temporary file of
its own, which takes the place of the claim's file only when it is complete, so a reader never sees
a part of a claim. -/

namespace ClaimRelay.Store

/-- A store in the directory at `root`. -/
structure Directory where
  root : FileSystem.Path
  readOnly : Bool := false
deriving DecidableEq, Repr

namespace Directory

/-- The name of a key's file. -/
def fileName (key : String) : String := key ++ ".jwt"

/-- Where a key's file is. -/
def path (dir : Directory) (key : String) : FileSystem.Path := dir.root ++ [fileName key]

/-- Opens the directory that a path leads to, which is made if it is missing. -/
def create (path : String) (fs : FileSystem) : Except Error Directory × FileSystem :=
  match fs.makeDirectories path with
  | (.ok root, fs) => (.ok ⟨root, false⟩, fs)
  | (.error e, fs) => (.error (.files e), fs)

/-- Opens the directory that a path leads to for reading only. -/
def openReadOnly (path : String) (fs : FileSystem) : Except Error Directory :=
  match fs.locate path with
  | .ok root =>
    if fs.node? root = some .directory then .ok ⟨root, true⟩ else .error (.noDirectory path)
  | .error _ => .error (.noDirectory path)

/-- The claim in a key's file. -/
def load (dir : Directory) (key : String) (fs : FileSystem) :
    Except Error (Option (List UInt8)) := do
  checkKey key
  if FileSystem.longestName < (fileName key).utf8ByteSize then throw (.files .nameTooLong)
  else match fs.node? (dir.path key) with
    | none => return none
    | some (.file content) => return some content
    | some .directory => throw (.files .isDirectory)

end Directory

/-- A save in progress: the temporary file, the part of the claim that it does not hold yet, and
whether what it holds is known to be on the disk. -/
structure Saving where
  key : String
  temporary : FileSystem.Path
  unwritten : List UInt8
  synced : Bool := false
deriving DecidableEq, Repr

namespace Saving

/-- The name of the temporary file with the given number. -/
def temporaryName (number : Nat) : String := s!".tmp{number}"

/-- A path in the directory at which there is nothing. -/
def unusedPath? (root : FileSystem.Path) (fs : FileSystem) : Option FileSystem.Path :=
  ((List.range (fs.nodes.length + 1)).map fun n => root ++ [temporaryName n]).find?
    fun path => fs.node? path = none

/-- Makes the temporary file, which is empty. -/
def start (dir : Directory) (key : String) (payload : List UInt8) (fs : FileSystem) :
    Except Error (Saving × FileSystem) := do
  if dir.readOnly then throw .readOnly
  checkKey key
  match unusedPath? dir.root fs with
  | none => throw (.files .alreadyExists)
  | some path => return (⟨key, path, payload, false⟩, fs.put path (.file []))

/-- Writes up to `count` more bytes to the temporary file. -/
def write (count : Nat) (saving : Saving) (fs : FileSystem) : Saving × FileSystem :=
  match fs.node? saving.temporary with
  | some (.file content) =>
    ({ saving with unwritten := saving.unwritten.drop count },
      fs.put saving.temporary (.file (content ++ saving.unwritten.take count)))
  | _ => (saving, fs)

/-- Waits until all that is written is on the disk. -/
def sync (saving : Saving) : Saving := { saving with synced := saving.unwritten.isEmpty }

/-- Removes the temporary file. -/
def abandon (saving : Saving) (fs : FileSystem) : FileSystem := fs.remove saving.temporary

/-- Puts the temporary file in the place of the key's file. -/
def commit (dir : Directory) (saving : Saving) (fs : FileSystem) :
    Except FileSystem.Error FileSystem :=
  fs.rename saving.temporary (dir.path saving.key)

end Saving

/-- Saves a claim.  A save that fails leaves no temporary file. -/
def Directory.save (dir : Directory) (key : String) (payload : List UInt8) (fs : FileSystem) :
    Except Error Unit × FileSystem :=
  match Saving.start dir key payload fs with
  | .error e => (.error e, fs)
  | .ok (saving, fs) =>
    let (saving, fs) := saving.write payload.length fs
    match saving.sync.commit dir fs with
    | .ok fs => (.ok (), fs)
    | .error e => (.error (.files e), saving.abandon fs)

end ClaimRelay.Store
