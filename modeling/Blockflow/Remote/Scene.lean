import Blockflow.Remote.Session
import Blockflow.Remote.Stage

/-!
# A session in rehearsal

A session that works with a remote side in memory and has at most one run followed at a time.

Components `session` and `testing` of `workflow-sync`; specification C.7.
-/

namespace Blockflow

/-- A session with a remote side in memory. -/
structure Scene where
  /-- The session. -/
  session : Session
  /-- The remote side, with the follower of the run that is followed. -/
  stage : Stage
  /-- How often to ask about runs. -/
  pace : Pace
  /-- The number for the next id. -/
  nextId : Nat
  /-- The trackers of the runs that are not followed any more, the latest first. -/
  retired : List Tracker

namespace Scene

variable {α : Type}

/-- Opens a workflow. -/
def start (w : Workflow) (r : Registry) (pace : Pace) (remote : Rehearsal) : Scene :=
  let (session, events) := Session.start w r
  { session, stage := (Stage.ofRemote remote).tell events, pace, nextId := 1, retired := [] }

/-- Changes the workflow, unless the change has no result. -/
def edit (s : Scene) (call : EditCall) : Option (Except EditError EditAnswer × Scene) := do
  let (result, nextId) ← (s.session.edit call).runFrom s.nextId
  match result with
  | .ok (answer, session, events) =>
    return (.ok answer, { s with session, nextId, stage := s.stage.tell events })
  | .error e => return (.error e, { s with nextId })

/-- The scene after a move through the history. -/
def moved (s : Scene) (m : Except EditError Bool × Session × List Event) :
    Except EditError Bool × Scene :=
  (m.1, { s with session := m.2.1, stage := s.stage.tell m.2.2 })

/-- Goes one state back. -/
def undo (s : Scene) : Except EditError Bool × Scene := s.moved s.session.undo

/-- Goes one state forth. -/
def redo (s : Scene) : Except EditError Bool × Scene := s.moved s.session.redo

/-- Leads a procedure that changes the session when it succeeds. -/
def perform (s : Scene) (p : Procedure (α × Session)) : Except SyncError α × Scene :=
  match (Stage.perform p).run s.stage with
  | (.ok (a, session), stage) => (.ok a, { s with session, stage })
  | (.error e, stage) => (.error e, { s with stage })

/-- Stops following. Function `stop_tracking`. -/
def stop (s : Scene) : Scene :=
  let stage := s.stage.stop
  { s with
    stage := { stage with follower := none }
    retired := (stage.follower.map (·.tracker)).toList ++ s.retired }

/-- Follows a run from the given moment on, in place of the one that was followed before. Function
`track_run`. -/
def track (s : Scene) (now : Timestamp) (run : Nat) : Except SyncError Nat × Scene :=
  match s.session.runNames with
  | .error e => (.error (.compile e), s)
  | .ok names =>
    let s := s.stop
    let id := Ids.execution s.nextId
    let e := Execution.start id s.session.workflow s.session.registry run now
    (.ok run, { s with stage := s.stage.follow (.start e names s.pace), nextId := s.nextId + 1 })

/-- Starts a run and follows it. Function `run`. -/
def run (s : Scene) (now : Timestamp) (ref : String) (inputs : Settings) (lookUp : LookUp) :
    Except SyncError Nat × Scene :=
  match (Stage.perform (s.session.workflow.dispatch ref inputs lookUp)).run s.stage with
  | (.ok run, stage) => { s with stage }.track now run
  | (.error e, stage) => (.error e, { s with stage })

/-- Waits. -/
def wait (s : Scene) (ms : Nat) : Scene := { s with stage := s.stage.wait ms }

/-- Closes the session: nothing is followed any more, and the problems are found once more. Function
`teardown`. -/
def close (s : Scene) : Scene :=
  let s := s.stop
  let (session, events) := s.session.revalidate
  { s with session, stage := s.stage.tell events }

end Scene

end Blockflow
