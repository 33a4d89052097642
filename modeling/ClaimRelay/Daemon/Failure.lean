import ClaimRelay.Daemon.Assembly
import ClaimRelay.Text.Split

/-! Why the daemon ends early, and the report of it: what was being done, and the causes, each
indented below. -/

namespace ClaimRelay.Daemon

/-- Why the daemon ends early. -/
inductive Failure where
  | settings (reason : ClaimRelay.Settings.Error)
  | assembly (reason : AssemblyError)
deriving DecidableEq, Repr

namespace Failure

/-- What was being done, and why it failed, the outermost first. -/
def chain : Failure → List String
  | .settings reason => ["Failed to load configuration", reason.message]
  | .assembly reason => reason.chain

/-- The text with each line after the first one indented by `width`. -/
def indent (width : Nat) (text : String) : String :=
  String.ofList <| List.intercalate ('\n' :: List.replicate width ' ') (Text.split '\n' text.toList)

/-- The causes, numbered if there are several. -/
def causes : List String → List String
  | [] => []
  | [cause] => ["    " ++ indent 4 cause]
  | many => many.mapIdx fun i cause => s!"    {i}: " ++ indent 7 cause

/-- The report of a failure. -/
def report (failure : Failure) : String :=
  match failure.chain with
  | [] => ""
  | context :: below =>
    let lines := (causes below).map fun line => "\n" ++ line
    "Error: " ++ context ++ (if below = [] then "" else "\n\nCaused by:" ++ String.join lines) ++ "\n"

end Failure

end ClaimRelay.Daemon
