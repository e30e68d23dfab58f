import Blockflow.Remote.Deploy
import Blockflow.Workflow.Editor
import Blockflow.Workflow.History
import Blockflow.Workflow.Validation

/-!
# Sessions

A session is one open workflow with all that belongs to it: its history, its problems, and what was
deployed of it last. Every change goes into the history and has the problems found again; when they
are others than before, an event tells them.

Component `session` of `workflow-sync`; specification C.7.
-/

namespace Blockflow

/-- An open workflow. Record `EditorSession`. -/
structure Session where
  /-- The workflow. -/
  workflow : Workflow
  /-- The types of blocks that there are. -/
  registry : Registry
  /-- The states that the workflow has had. -/
  history : History StoredWorkflow
  /-- The problems of the workflow. -/
  problems : List Problem
  /-- The version of the deployed file that was seen last. -/
  lastSeen : Option String
  /-- The names in the document that was deployed last. -/
  names : Option NameMap

namespace Session

/-- Finds the problems again, and tells them if they are others. Function `revalidate`. -/
def revalidate (s : Session) : Session × List Event :=
  let problems := s.workflow.problems s.registry
  if problems = s.problems then (s, [])
  else ({ s with problems }, [.problemsChanged s.workflow.id problems])

/-- Opens a workflow. Function `EditorSession.new`. -/
def start (w : Workflow) (r : Registry) : Session × List Event :=
  revalidate
    { workflow := w, registry := r,
      history := (History.empty History.defaultCapacity).push (.ofWorkflow w), problems := [],
      lastSeen := none, names := none }

/-- The session with a workflow that goes into its history. Function `commit`. -/
def commit (s : Session) (w : Workflow) : Session × List Event :=
  { s with workflow := w, history := s.history.push (.ofWorkflow w) }.revalidate

/-- Changes the workflow. A refused change changes nothing. -/
def edit (s : Session) (call : EditCall) : Editing (EditAnswer × Session × List Event) := do
  let e ← call.run s.registry s.workflow
  let (s, events) := s.commit e.workflow
  return (e.answer, s, e.events ++ events)

/-- The session at another state of its history, if there is one. -/
def moveTo (s : Session) :
    Option (StoredWorkflow × History StoredWorkflow) →
      Except EditError Bool × Session × List Event
  | none => (.ok false, s, [])
  | some (stored, history) =>
    match stored.workflow? with
    | none => (.error .unreadable, { s with history }, [])
    | some w => (.ok true, { s with workflow := w, history }.revalidate)

/-- Goes one state back, and tells whether there is one. Function `undo`. -/
def undo (s : Session) : Except EditError Bool × Session × List Event := s.moveTo s.history.undo?

/-- Goes one state forth, and tells whether there is one. Function `redo`. -/
def redo (s : Session) : Except EditError Bool × Session × List Event := s.moveTo s.history.redo?

/-- The session with another version as the one seen last. Function `set_last_synced_sha`. -/
def withLastSeen (s : Session) (version : Option String) : Session :=
  { s with lastSeen := version }

/-- Deploys the workflow. The session then remembers the version of the file and the names in it.
Function `deploy`. -/
def deploy (s : Session) (policy : ConflictPolicy) : Procedure (DeployReport × Session) := do
  let report ← s.workflow.deploy s.registry s.lastSeen policy
  return (report,
    { s with lastSeen := some report.outcome.version, names := some report.pipeline.names })

/-- Deletes the file of the workflow. The session then remembers no version and no names. Function
`undeploy`. -/
def undeploy (s : Session) : Procedure (Bool × Session) := do
  let removed ← s.workflow.undeploy
  return (removed, { s with lastSeen := none, names := none })

/-- The names under which steps and jobs are reported: those of the document deployed last, or of
the workflow as it is. -/
def runNames (s : Session) : Except CompileError NameMap :=
  match s.names with
  | some names => .ok names
  | none => (s.workflow.compile s.registry).map (·.names)

end Session

end Blockflow
