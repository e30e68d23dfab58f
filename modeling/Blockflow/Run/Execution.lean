import Blockflow.Ids
import Blockflow.Run.Status
import Blockflow.Timestamp
import Blockflow.Workflow.Graph

/-!
# Executions

An execution follows one run of a workflow: where the run stands, and where each of its blocks
stands. Triggers are no part of it, since they never run.

Component `execution` of `workflow-engine`; specification §3 and §4.5.
-/

namespace Blockflow

/-- Where a block of an execution stands. Record `BlockExecutionState`. -/
structure BlockState where
  /-- The block. -/
  block : String
  /-- Where it stands. -/
  status : BlockStatus
  /-- When it started. -/
  startedAt : Option Timestamp
  /-- When it ended. -/
  finishedAt : Option Timestamp
  /-- Where its log is. -/
  log : Option String
deriving DecidableEq, Inhabited

namespace BlockState

/-- A block that has not started. Function `BlockExecutionState.pending`. -/
def pending (block : String) : BlockState := ⟨block, .pending, none, none, none⟩

/-- Reads the state of a block. -/
def ofJson? : Json → Option BlockState := Json.record? do
  let block ← .required "blockId" Json.text?
  let status ← .required "status" BlockStatus.ofJson?
  let startedAt ← .optional "startedAt" Timestamp.ofJson?
  let finishedAt ← .optional "finishedAt" Timestamp.ofJson?
  let log ← .optional "logRef" Json.text?
  return { block, status, startedAt, finishedAt, log }

/-- The written form of a block's state. -/
def toJson (s : BlockState) : Json :=
  .obj <| [("blockId", .str s.block), ("status", s.status.toJson)] ++
    Json.optional "startedAt" Timestamp.toJson s.startedAt ++
    Json.optional "finishedAt" Timestamp.toJson s.finishedAt ++ Json.optional "logRef" .str s.log

end BlockState

/-- A run of a workflow that is followed. Record `WorkflowExecution`. -/
structure Execution where
  /-- What events call it. -/
  id : String
  /-- The workflow. -/
  workflow : String
  /-- The number of the remote run. -/
  run : Nat
  /-- Where the run stands. -/
  status : RunStatus
  /-- When it started. -/
  startedAt : Timestamp
  /-- When it ended. -/
  finishedAt : Option Timestamp
  /-- Where each block stands. -/
  blocks : Dict BlockState
deriving DecidableEq, Inhabited

namespace Execution

/-- A new execution, in which no block has started. Function `WorkflowExecution.start`. -/
def start (id : String) (w : Workflow) (r : Registry) (run : Nat) (startedAt : Timestamp) :
    Execution :=
  { id, workflow := w.id, run, status := .pending, startedAt, finishedAt := none,
    blocks := .ofList ((w.steps r).map fun b ↦ (b.id, .pending b.id)) }

/-- Whether the run has come to an end. Function `WorkflowExecution.is_terminal`. -/
def isTerminal (e : Execution) : Bool := e.status.isTerminal

/-- Where a block stands. Function `block_status`. -/
def blockStatus? (e : Execution) (block : String) : Option BlockStatus :=
  (e.blocks.get? block).map (·.status)

/-- Reads an execution. -/
def ofJson? : Json → Option Execution := Json.record? do
  let id ← .required "id" Json.text?
  let workflow ← .required "workflowId" Json.text?
  let run ← .required "runId" (Json.unsigned? 64)
  let status ← .required "status" RunStatus.ofJson?
  let startedAt ← .required "startedAt" Timestamp.ofJson?
  let finishedAt ← .optional "finishedAt" Timestamp.ofJson?
  let blocks ← .required "blockStates" (Json.dictOf? BlockState.ofJson?)
  return { id, workflow, run, status, startedAt, finishedAt, blocks }

/-- The written form of an execution. -/
def toJson (e : Execution) : Json :=
  .obj <| [("id", .str e.id), ("workflowId", .str e.workflow), ("runId", .ofNat e.run),
    ("status", e.status.toJson), ("startedAt", e.startedAt.toJson)] ++
    Json.optional "finishedAt" Timestamp.toJson e.finishedAt ++
    [("blockStates", .ofDict BlockState.toJson e.blocks)]

end Execution

end Blockflow
