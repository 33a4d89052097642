import ClaimRelay.Daemon.Run

/-! The command line: the daemon with the variables of the process and the files that they name.  It
is told to end by the end of standard input. -/

namespace ClaimRelay.CommandLine

/-- The variables that the daemon looks at. -/
def variableNames : List String :=
  ["CLAIM_NOTIFY_CONFIG", "CLAIM_NOTIFY_SERVERS", "CLAIM_NOTIFY_MAX_RECONNECTS",
   "CLAIM_NOTIFY_RECONNECT_WAIT_MS", "CLAIM_NOTIFY_CONNECT_TIMEOUT_MS", "CLAIM_NOTIFY_PRIMARY",
   "CLAIM_NOTIFY_CACHE_TTL_SECS", "CLAIM_NOTIFY_TLS_ROOT", "CLAIM_NOTIFY_TLS_CERT",
   "CLAIM_NOTIFY_TLS_KEY", "CLAIM_NOTIFY_CREDENTIALS", "CLAIM_NOTIFY_NAME", "CLAIM_NOTIFY_BUS",
   "CLAIM_NOTIFY_STORE_DIR", "CLAIM_NOTIFY_STORE_READ_ONLY", "RUST_LOG"]

/-- The variables that are present. -/
def readVariables : IO (Table String String) :=
  variableNames.filterMapM fun name => do
    return (← IO.getEnv name).map fun value => (name, value)

/-- What is at a path. -/
def readNode (path : String) : IO (Option FileSystem.Node) := do
  try
    let content ← IO.FS.readBinFile path
    return some (.file content.data.toList)
  catch
    | .noFileOrDirectory _ _ _ => return none
    | .inappropriateType _ _ _ => return some .directory
    | _ => return none

/-- The directories on the way to a path and the path itself, the shortest first. -/
def stages (path : FileSystem.Path) : List FileSystem.Path :=
  (List.range path.length).map fun n => path.take (n + 1)

/-- Adds what is on the way to a path. -/
def readAlong (fs : FileSystem) (path : String) : IO FileSystem := do
  let names := fs.origin path ++ (FileSystem.parts path).filter (· ≠ "")
  (stages names).foldlM (fun fs stage => do
    match ← readNode ("/" ++ "/".intercalate stage) with
    | some node => return fs.put stage node
    | none => return fs) fs

/-- The files that the variables and the settings name. -/
def readFiles (vars : Variables) : IO FileSystem := do
  let working := (FileSystem.parts (toString (← IO.FS.realPath "."))).filter (· ≠ "")
  let named := (["CLAIM_NOTIFY_CONFIG", "CLAIM_NOTIFY_STORE_DIR"].filterMap vars)
  let fs ← named.foldlM readAlong { working }
  match Settings.load fs vars with
  | .error _ => return fs
  | .ok settings =>
    let tls := settings.tls
    let paths := [tls.root, tls.certificate, tls.key, settings.credentials].filterMap id
    paths.foldlM readAlong fs

/-- Prints the notices that the variables ask for. -/
def printNotices (vars : Variables) (notices : List Notice) : IO Unit := do
  for line in (Notice.Filter.ofVariable (vars "RUST_LOG")).lines notices do
    IO.println line
  (← IO.getStdout).flush

/-- Waits for the end of standard input. -/
partial def waitForEnd (input : IO.FS.Stream) : IO Unit := do
  unless (← input.getLine).isEmpty do waitForEnd input

/-- Makes the directory of claims on the disk. -/
def makeStore (settings : Daemon.Settings) : IO Unit :=
  match settings.storeDirectory with
  | some path => unless settings.storeReadOnly do IO.FS.createDirAll path
  | none => return

end ClaimRelay.CommandLine

open ClaimRelay CommandLine

/-- Runs the daemon and returns its exit code. -/
def main : IO UInt32 := do
  let table ← readVariables
  let vars : Variables := table.get?
  let (started, notices) := Daemon.start (← readFiles vars) vars
  printNotices vars notices
  match started with
  | .error failure =>
    IO.eprint failure.report
    return 1
  | .ok daemon =>
    makeStore daemon.settings
    waitForEnd (← IO.getStdin)
    printNotices vars (Daemon.stop daemon)
    return 0
