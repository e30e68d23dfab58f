import Blockflow.Pipeline.Compile
import Blockflow.Remote.Options
import Blockflow.Text.Quoted

/-!
# What can go wrong on the remote side

A call of the remote side may fail in ways that differ in what to do next: only a passing failure
is worth the same call again.

Component `error` of `workflow-sync`; specification §7 and B.2.
-/

namespace Blockflow

/-- Why a call of the remote side has failed. What a call can fail with, of `SyncError`. -/
inductive RemoteError where
  /-- A file has changed since it was last seen; its version, if it has one. -/
  | conflict (path : String) (version : Option String)
  /-- A failure that may pass. -/
  | transient (message : String)
  /-- The connection broke before the whole answer was there. -/
  | disconnected
  /-- The call was refused with this status. -/
  | refused (status : Nat) (message : String)
  /-- What was asked for does not exist. -/
  | notFound (what : String)
  /-- The token is missing or not accepted. -/
  | unauthorized (message : String)
  /-- The answer makes no sense. -/
  | undecodable (context : String)
  /-- The options are not enough for the call. -/
  | unconfigured (message : String)
deriving DecidableEq, Inhabited

namespace RemoteError

/-- Whether the same call may succeed later. Function `is_transient`. -/
def isTransient : RemoteError → Bool
  | .transient _ | .disconnected => true
  | _ => false

/-- A version in the text of an error. -/
def versionText : Option String → String
  | none => "None"
  | some v => "Some(" ++ Text.quoted v ++ ")"

/-- The error in words. -/
def message : RemoteError → String
  | .conflict path version =>
    "Remote file '" ++ path ++ "' changed since last sync (remote sha " ++
      versionText version ++ ")"
  | .transient m => "Transient network error: " ++ m
  | .disconnected => "Transient network error: connection lost"
  | .refused status m => "GitHub API error " ++ toString status ++ ": " ++ m
  | .notFound what => "Not found: " ++ what
  | .unauthorized m => "Unauthorized: " ++ m
  | .undecodable context => "Failed to decode response: " ++ context
  | .unconfigured m => "Invalid configuration: " ++ m

end RemoteError

/-- Why a workflow and its remote side could not be brought together. Enumeration `SyncError`. -/
inductive SyncError where
  /-- A call has failed. -/
  | remote (e : RemoteError)
  /-- There is no pipeline. -/
  | compile (e : CompileError)
  /-- There are no options. -/
  | options (e : Options.LoadError)
deriving DecidableEq

namespace SyncError

/-- Whether the same may succeed later. -/
def isTransient : SyncError → Bool
  | .remote e => e.isTransient
  | _ => false

/-- The error in words. -/
def message : SyncError → String
  | .remote e => e.message
  | .compile e => e.message
  | .options e => e.message

end SyncError

end Blockflow
