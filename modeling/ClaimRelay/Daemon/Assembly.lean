import ClaimRelay.Daemon.Settings
import ClaimRelay.Manager.Basic

/-! Putting a server together from the settings of the daemon: its store is opened, and its manager
is made. -/

namespace ClaimRelay.Daemon

/-- Why a server cannot be put together. -/
inductive AssemblyError where
  /-- The store in the directory at `path` cannot be opened. -/
  | store (path : String) (reason : Store.Error)
  | manager (reason : Manager.CreateError)
deriving DecidableEq, Repr

/-- What was being done, and why it failed, the outermost first. -/
def AssemblyError.chain : AssemblyError → List String
  | .store path reason => [s!"Failed to open claim store at {path}", reason.message]
  | .manager (.settings reason) =>
    ["Failed to create notification server state", (Manager.CreateError.settings reason).message,
      reason.message]

/-- Opens the store that the settings ask for. -/
def Settings.openStore (settings : Settings) (fs : FileSystem) :
    Except AssemblyError Store × FileSystem :=
  match settings.storeDirectory with
  | none => (.ok (.memory []), fs)
  | some path =>
    match Store.openDirectory path settings.storeReadOnly fs with
    | (.ok store, fs) => (.ok store, fs)
    | (.error reason, fs) => (.error (.store path reason), fs)

/-- The manager of a server with the given settings. -/
def Settings.assemble (settings : Settings) (listener : Nat) (fs : FileSystem) :
    Except AssemblyError Manager × FileSystem :=
  match settings.openStore fs with
  | (.error e, fs) => (.error e, fs)
  | (.ok store, fs) =>
    match Manager.create settings.server listener store with
    | .error reason => (.error (.manager reason), fs)
    | .ok manager => (.ok manager, fs)

end ClaimRelay.Daemon
