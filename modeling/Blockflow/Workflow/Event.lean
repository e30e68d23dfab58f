import Blockflow.Run.Health
import Blockflow.Run.Status
import Blockflow.Workflow.Basic
import Blockflow.Workflow.Problem

/-!
# Events

What is told to those who show a workflow: changes of its graph and its problems, and how its runs
come along.

Component `events` of `workflow-engine`; specification §6 and C.5.
-/

namespace Blockflow

/-- Something that has happened to a workflow. Enumeration `WorkflowEvent`. -/
inductive Event where
  /-- A block was added. -/
  | blockAdded (workflow : String) (block : Block)
  /-- A block was removed. -/
  | blockRemoved (workflow block : String)
  /-- A block was changed. -/
  | blockUpdated (workflow : String) (block : Block)
  /-- A connection was added. -/
  | connectionAdded (workflow : String) (connection : Connection)
  /-- A connection was removed. -/
  | connectionRemoved (workflow connection : String)
  /-- The problems have changed; these are all of them. -/
  | problemsChanged (workflow : String) (problems : List Problem)
  /-- A block of an execution has moved forward. -/
  | blockMoved (workflow execution block : String) (status : BlockStatus)
  /-- An execution has moved forward. -/
  | runMoved (workflow execution : String) (status : RunStatus)
  /-- It has changed whether an execution can be followed. -/
  | healthChanged (workflow execution : String) (health : Health)
deriving DecidableEq

namespace Event

/-- The reader of the fields of an event with the given name. -/
def reader? : String → Option (Json.RecordReader Event)
  | "blockAdded" => some do
    let workflow ← .required "workflowId" Json.text?
    return .blockAdded workflow (← .required "block" Block.ofJson?)
  | "blockRemoved" => some do
    let workflow ← .required "workflowId" Json.text?
    return .blockRemoved workflow (← .required "blockId" Json.text?)
  | "blockUpdated" => some do
    let workflow ← .required "workflowId" Json.text?
    return .blockUpdated workflow (← .required "block" Block.ofJson?)
  | "connectionAdded" => some do
    let workflow ← .required "workflowId" Json.text?
    return .connectionAdded workflow (← .required "connection" Connection.ofJson?)
  | "connectionRemoved" => some do
    let workflow ← .required "workflowId" Json.text?
    return .connectionRemoved workflow (← .required "connectionId" Json.text?)
  | "validationErrorsChanged" => some do
    let workflow ← .required "workflowId" Json.text?
    return .problemsChanged workflow (← .required "errors" (Json.list? Problem.ofJson?))
  | "executionStateChanged" => some do
    let workflow ← .required "workflowId" Json.text?
    let execution ← .required "executionId" Json.text?
    let block ← .required "blockId" Json.text?
    return .blockMoved workflow execution block (← .required "status" BlockStatus.ofJson?)
  | "executionStatusChanged" => some do
    let workflow ← .required "workflowId" Json.text?
    let execution ← .required "executionId" Json.text?
    return .runMoved workflow execution (← .required "status" RunStatus.ofJson?)
  | "trackingHealthChanged" => some do
    let workflow ← .required "workflowId" Json.text?
    let execution ← .required "executionId" Json.text?
    return .healthChanged workflow execution (← .required "health" Health.ofJson?)
  | _ => none

/-- Reads an event. -/
def ofJson? : Json → Option Event := Json.tagged? "type" reader?

/-- The written form of an event of a workflow, from its name and its other fields. -/
def record (name workflow : String) (fields : List (String × Json)) : Json :=
  .obj (("type", .str name) :: ("workflowId", .str workflow) :: fields)

/-- The written form of an event. -/
def toJson : Event → Json
  | .blockAdded w b => record "blockAdded" w [("block", b.toJson)]
  | .blockRemoved w b => record "blockRemoved" w [("blockId", .str b)]
  | .blockUpdated w b => record "blockUpdated" w [("block", b.toJson)]
  | .connectionAdded w c => record "connectionAdded" w [("connection", c.toJson)]
  | .connectionRemoved w c => record "connectionRemoved" w [("connectionId", .str c)]
  | .problemsChanged w ps =>
    record "validationErrorsChanged" w [("errors", .ofList Problem.toJson ps)]
  | .blockMoved w e b s =>
    record "executionStateChanged" w
      [("executionId", .str e), ("blockId", .str b), ("status", s.toJson)]
  | .runMoved w e s =>
    record "executionStatusChanged" w [("executionId", .str e), ("status", s.toJson)]
  | .healthChanged w e h =>
    record "trackingHealthChanged" w [("executionId", .str e), ("health", h.toJson)]

end Event

end Blockflow
