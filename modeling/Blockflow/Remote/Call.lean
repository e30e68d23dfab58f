import Blockflow.Dialogue
import Blockflow.Remote.Error
import Blockflow.Run.Snapshot

/-!
# Calls of the remote side

What the remote side can be asked for: files, each with a version that changes whenever the file is
written, and runs of pipelines. A procedure that works with the remote side is a dialogue of calls
and waits.

Component `remote` of `workflow-sync`; specification §6 and C.6.
-/

namespace Blockflow

/-- A file on the remote side. Record `RemoteFile`. -/
structure RemoteFile where
  /-- Where it is. -/
  path : String
  /-- What tells this state of the file from every other one. -/
  version : String
  /-- What it holds. -/
  content : String
deriving DecidableEq, Inhabited

/-- The wish to write a file. Record `FileWrite`. -/
structure FileWrite where
  /-- Where it is. -/
  path : String
  /-- What it shall hold. -/
  content : String
  /-- What to say about the change. -/
  message : String
  /-- The version that it shall replace; without one the file has to be new. -/
  version : Option String
deriving DecidableEq, Inhabited

/-- A run in the list of the runs of a pipeline. Record `RunSummary`. -/
structure RunSummary where
  /-- Its number. -/
  id : Nat
  /-- Where it stands. -/
  status : RemoteStatus
  /-- How it has ended. -/
  conclusion : Option Conclusion
  /-- The branch that it runs on. -/
  branch : Option String
  /-- When it was created. -/
  createdAt : Timestamp
  /-- Where people can look at it. -/
  link : Option String
deriving DecidableEq, Inhabited

namespace RunSummary

/-- What to know of a written run. -/
def interest : Json.Interest := .fields
  ["id", "status", "conclusion", "head_branch", "created_at", "html_url"]

/-- Reads a run. -/
def ofJson? : Json → Option RunSummary := Json.record? do
  let id ← .required "id" (Json.unsigned? 64)
  let status ← .required "status" RemoteStatus.ofJson?
  let conclusion ← .optional "conclusion" Conclusion.ofJson?
  let branch ← .optional "head_branch" Json.text?
  let createdAt ← .required "created_at" Timestamp.ofJson?
  let link ← .optional "html_url" Json.text?
  return { id, status, conclusion, branch, createdAt, link }

/-- The written form of a run. -/
def toJson (r : RunSummary) : Json :=
  .obj [("id", .ofNat r.id), ("status", r.status.toJson),
    ("conclusion", .ofOption Conclusion.toJson r.conclusion),
    ("head_branch", .ofOption .str r.branch), ("created_at", r.createdAt.toJson),
    ("html_url", .ofOption .str r.link)]

end RunSummary

/-- A call of the remote side. The functions of `PipelineRemote`. -/
inductive Call where
  /-- What a file holds. -/
  | getFile (path : String)
  /-- Writes a file. -/
  | putFile (write : FileWrite)
  /-- Deletes a version of a file. -/
  | deleteFile (path version message : String)
  /-- The runs of a pipeline file, the newest first. -/
  | listRuns (file : String)
  /-- A run with its jobs. -/
  | runDetail (run : Nat)
  /-- Starts a run of a pipeline file. -/
  | triggerRun (file ref : String) (inputs : Settings)
deriving DecidableEq

namespace Call

/-- What a call gives when it succeeds. -/
abbrev Reply : Call → Type
  | .getFile _ => Option RemoteFile
  | .putFile _ => String
  | .deleteFile .. => Unit
  | .listRuns _ => List RunSummary
  | .runDetail _ => RunSnapshot
  | .triggerRun .. => Unit

/-- What a call gives: its reply, or why there is none. -/
abbrev Outcome (c : Call) : Type := Except RemoteError c.Reply

/-- Whether a call may change something on the remote side. -/
def isMutating : Call → Bool
  | .getFile _ | .listRuns _ | .runDetail _ => false
  | .putFile _ | .deleteFile .. | .triggerRun .. => true

/-- The name of a call. -/
def name : Call → String
  | .getFile _ => "get_file"
  | .putFile _ => "put_file"
  | .deleteFile .. => "delete_file"
  | .listRuns _ => "list_runs"
  | .runDetail _ => "get_run_detail"
  | .triggerRun .. => "trigger_run"

end Call

namespace Remote

/-- What a procedure asks for: a call, or that some time passes. -/
inductive Question where
  /-- A call. -/
  | call (c : Call)
  /-- A wait of so many milliseconds. -/
  | wait (ms : Nat)
deriving DecidableEq

/-- The answers to a question. -/
abbrev Answer : Question → Type
  | .call c => c.Outcome
  | .wait _ => Unit

/-- A dialogue of calls and waits. -/
abbrev Talk (α : Type) : Type := Dialogue Question Answer α

end Remote

/-- A dialogue of calls and waits that may fail. -/
abbrev Procedure (α : Type) : Type := ExceptT SyncError Remote.Talk α

namespace Procedure

variable {α : Type}

/-- Makes a call, and fails where it fails. -/
def call (c : Call) : Procedure c.Reply :=
  ExceptT.mk (.ask (.call c) fun outcome ↦ .done (outcome.mapError .remote))

/-- Lets some time pass. -/
def wait (ms : Nat) : Procedure Unit := ExceptT.lift (.ask (.wait ms) .done)

/-- Goes on with a value, or fails. -/
def ofExcept (x : Except SyncError α) : Procedure α := ExceptT.mk (.done x)

end Procedure

end Blockflow
