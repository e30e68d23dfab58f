import Blockflow.Json.Record

/-!
# States of runs and blocks

Where a run and its blocks stand, as this library says it and as a remote side reports it. Both
move forward only: pending, running, and one of the ends.

Component `execution` of `workflow-engine`; specification §3 and C.5.
-/

namespace Blockflow

/-- Where a run stands. Enumeration `RunStatus`. -/
inductive RunStatus where
  | pending
  | running
  | success
  | failure
  | cancelled
deriving DecidableEq, Inhabited

namespace RunStatus

/-- Whether a run has come to an end. Function `RunStatus.is_terminal`. -/
def isTerminal : RunStatus → Bool
  | .pending | .running => false
  | .success | .failure | .cancelled => true

/-- How far a run has come. -/
def rank : RunStatus → Nat
  | .pending => 0
  | .running => 1
  | .success | .failure | .cancelled => 2

/-- The name a status is written with. -/
def tag : RunStatus → String
  | .pending => "pending"
  | .running => "running"
  | .success => "success"
  | .failure => "failure"
  | .cancelled => "cancelled"

/-- The status with the given name. -/
def ofTag? (s : String) : Option RunStatus :=
  [RunStatus.pending, .running, .success, .failure, .cancelled].find? fun t ↦ t.tag == s

/-- Reads a status. -/
def ofJson? : Json → Option RunStatus := Json.choice? ofTag?

/-- The written form of a status. -/
def toJson (t : RunStatus) : Json := .str t.tag

end RunStatus

/-- Where a block of a run stands. Enumeration `BlockStatus`. -/
inductive BlockStatus where
  | pending
  | running
  | success
  | failure
  | skipped
deriving DecidableEq, Inhabited

namespace BlockStatus

/-- Whether a block has come to an end. Function `BlockStatus.is_terminal`. -/
def isTerminal : BlockStatus → Bool
  | .pending | .running => false
  | .success | .failure | .skipped => true

/-- How far a block has come. Function `BlockStatus.rank`. -/
def rank : BlockStatus → Nat
  | .pending => 0
  | .running => 1
  | .success | .failure | .skipped => 2

/-- The name a status is written with. -/
def tag : BlockStatus → String
  | .pending => "pending"
  | .running => "running"
  | .success => "success"
  | .failure => "failure"
  | .skipped => "skipped"

/-- The status with the given name. -/
def ofTag? (s : String) : Option BlockStatus :=
  [BlockStatus.pending, .running, .success, .failure, .skipped].find? fun t ↦ t.tag == s

/-- Reads a status. -/
def ofJson? : Json → Option BlockStatus := Json.choice? ofTag?

/-- The written form of a status. -/
def toJson (t : BlockStatus) : Json := .str t.tag

end BlockStatus

/-- Where a run, a job or a step stands, as the remote side says it. Enumeration `RemoteStatus`. -/
inductive RemoteStatus where
  | queued
  | waiting
  | requested
  | pending
  | inProgress
  | completed
  /-- Something that this library does not know. -/
  | unknown
deriving DecidableEq, Inhabited

namespace RemoteStatus

/-- The name a status is written with. -/
def tag : RemoteStatus → String
  | .queued => "queued"
  | .waiting => "waiting"
  | .requested => "requested"
  | .pending => "pending"
  | .inProgress => "in_progress"
  | .completed => "completed"
  | .unknown => "unknown"

/-- The status with the given name; any other name is unknown. -/
def ofTag (s : String) : RemoteStatus :=
  ([RemoteStatus.queued, .waiting, .requested, .pending, .inProgress, .completed].find?
    fun t ↦ t.tag == s).getD .unknown

/-- Whether something has left the queue. -/
def hasStarted (s : RemoteStatus) : Bool := s = .inProgress || s = .completed

/-- Reads a status. -/
def ofJson? : Json → Option RemoteStatus := Json.choice? fun s ↦ some (ofTag s)

/-- The written form of a status. -/
def toJson (t : RemoteStatus) : Json := .str t.tag

end RemoteStatus

/-- How a run, a job or a step has ended, as the remote side says it. Enumeration
`RemoteConclusion`. -/
inductive Conclusion where
  | success
  | failure
  | neutral
  | cancelled
  | skipped
  | timedOut
  | actionRequired
  | stale
  /-- Something that this library does not know. -/
  | other
deriving DecidableEq, Inhabited

namespace Conclusion

/-- The name a conclusion is written with. -/
def tag : Conclusion → String
  | .success => "success"
  | .failure => "failure"
  | .neutral => "neutral"
  | .cancelled => "cancelled"
  | .skipped => "skipped"
  | .timedOut => "timed_out"
  | .actionRequired => "action_required"
  | .stale => "stale"
  | .other => "other"

/-- The conclusion with the given name; any other name is something else. -/
def ofTag (s : String) : Conclusion :=
  ([Conclusion.success, .failure, .neutral, .cancelled, .skipped, .timedOut, .actionRequired,
    .stale].find? fun t ↦ t.tag == s).getD .other

/-- Reads a conclusion. -/
def ofJson? : Json → Option Conclusion := Json.choice? fun s ↦ some (ofTag s)

/-- The written form of a conclusion. -/
def toJson (t : Conclusion) : Json := .str t.tag

/-- Where a run with the given conclusion stands. -/
def runStatus : Option Conclusion → RunStatus
  | some .success | some .neutral => .success
  | some .cancelled | some .skipped => .cancelled
  | _ => .failure

/-- Where a block with the given conclusion stands. -/
def blockStatus : Option Conclusion → BlockStatus
  | some .success | some .neutral => .success
  | some .skipped | some .cancelled => .skipped
  | _ => .failure

end Conclusion

end Blockflow
