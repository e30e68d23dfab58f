import Blockflow.Remote.Call
import Blockflow.Run.Reduce
import Blockflow.Workflow.Event

/-!
# Tracking a run

A tracker holds the execution of one run and asks the remote side about it again and again. An
answer moves the execution forward; a failure never touches it, but many failures in a row, or one
that does not pass, mean that the run is out of sight. Events tell every change.

Component `tracker` of `workflow-sync`; specification §4.5, §5 and C.5.
-/

namespace Blockflow

/-- An execution with what is needed to move it forward. Record `ExecutionTracker`. -/
structure Tracker where
  /-- The blocks behind the names of jobs and steps. -/
  names : NameMap
  /-- How often to ask. -/
  pace : Pace
  /-- The execution. -/
  execution : Execution
  /-- Whether the run is in sight. -/
  health : Health
  /-- How many failures there have been since the last answer. -/
  failures : Nat
deriving DecidableEq, Inhabited

/-- What the remote side says about a run: a snapshot, or why there is none. -/
abbrev PollReply : Type := Except RemoteError RunSnapshot

namespace Tracker

/-- A tracker that has not asked yet. Function `ExecutionTracker.new`. -/
def start (e : Execution) (names : NameMap) (pace : Pace) : Tracker :=
  { names, pace, execution := e, health := .healthy, failures := 0 }

/-- The events about the steps forward from one execution to another. -/
def moves (before after : Execution) : List Event :=
  (Execution.changedBlocks before after).map
      (fun b ↦ .blockMoved after.workflow after.id b.block b.status) ++
    if before.status = after.status then [] else [.runMoved after.workflow after.id after.status]

/-- The tracker after a snapshot. Function `apply_snapshot`. -/
def apply (t : Tracker) (s : RunSnapshot) : Tracker × List Event :=
  let after := t.execution.reduce s t.names
  ({ t with execution := after }, moves t.execution after)

/-- The tracker with the given health. Function `set_health`. -/
def withHealth (t : Tracker) (h : Health) : Tracker × List Event :=
  if t.health = h then (t, [])
  else ({ t with health := h }, [.healthChanged t.execution.workflow t.execution.id h])

/-- The tracker after an answer. Part of `poll_once`. -/
def succeed (t : Tracker) (s : RunSnapshot) : Tracker × List Event :=
  let (t, moved) := t.apply s
  let (t, changed) := { t with failures := 0 }.withHealth .healthy
  (t, moved ++ changed)

/-- The tracker after a failure. Function `record_failure`. -/
def fail (t : Tracker) (e : RemoteError) : Tracker × List Event :=
  let t := { t with failures := t.failures + 1 }
  if !e.isTransient || t.failures ≥ t.pace.failureThreshold then
    t.withHealth (.degraded t.failures e.message)
  else (t, [])

/-- The tracker after it has asked once and got a reply. Function `poll_once`. -/
def receive (t : Tracker) : PollReply → Tracker × List Event
  | .ok s => t.succeed s
  | .error e => t.fail e

/-- How long to wait after a reply, which the tracker has received already; nothing more is asked
once the run has ended, or after a failure that does not pass. -/
def nextWait? (t : Tracker) : PollReply → Option Nat
  | .ok _ => if t.execution.isTerminal then none else some t.pace.pollInterval
  | .error e => if e.isTransient then some (t.pace.backoff t.failures) else none

end Tracker

end Blockflow
