import Blockflow.Json.Skim
import Blockflow.Run.Status
import Blockflow.Timestamp

/-!
# Snapshots of a remote run

What the remote side says about a run at one moment: where it stands, and the same of each of its
jobs and of their steps.

Component `execution` of `workflow-engine`; specification C.5.
-/

namespace Blockflow

/-- A step of a job, as the remote side says it. Record `RemoteStep`. -/
structure RemoteStep where
  /-- Its name. -/
  name : String
  /-- Where it stands. -/
  status : RemoteStatus
  /-- How it has ended. -/
  conclusion : Option Conclusion
  /-- When it started. -/
  startedAt : Option Timestamp
  /-- When it ended. -/
  completedAt : Option Timestamp
deriving DecidableEq, Inhabited

namespace RemoteStep

/-- What to know of a written step. -/
def interest : Json.Interest := .fields
  ["name", "status", "conclusion", "started_at", "completed_at"]

/-- Reads a step. -/
def ofJson? : Json → Option RemoteStep := Json.record? do
  let name ← .required "name" Json.text?
  let status ← .required "status" RemoteStatus.ofJson?
  let conclusion ← .optional "conclusion" Conclusion.ofJson?
  let startedAt ← .optional "started_at" Timestamp.ofJson?
  let completedAt ← .optional "completed_at" Timestamp.ofJson?
  return { name, status, conclusion, startedAt, completedAt }

/-- The written form of a step. -/
def toJson (s : RemoteStep) : Json :=
  .obj [("name", .str s.name), ("status", s.status.toJson),
    ("conclusion", .ofOption Conclusion.toJson s.conclusion),
    ("started_at", .ofOption Timestamp.toJson s.startedAt),
    ("completed_at", .ofOption Timestamp.toJson s.completedAt)]

end RemoteStep

/-- A job of a run, as the remote side says it. Record `RemoteJob`. -/
structure RemoteJob where
  /-- Its name. -/
  name : String
  /-- Where it stands. -/
  status : RemoteStatus
  /-- How it has ended. -/
  conclusion : Option Conclusion
  /-- When it started. -/
  startedAt : Option Timestamp
  /-- When it ended. -/
  completedAt : Option Timestamp
  /-- Where its log is. -/
  link : Option String
  /-- Its steps. -/
  steps : List RemoteStep
deriving DecidableEq, Inhabited

namespace RemoteJob

/-- What to know of a written job. -/
def interest : Json.Interest := .record <|
  ["name", "status", "conclusion", "started_at", "completed_at", "html_url"].map (·, .all) ++
    [("steps", .list RemoteStep.interest)]

/-- Reads a job. -/
def ofJson? : Json → Option RemoteJob := Json.record? do
  let name ← .required "name" Json.text?
  let status ← .required "status" RemoteStatus.ofJson?
  let conclusion ← .optional "conclusion" Conclusion.ofJson?
  let startedAt ← .optional "started_at" Timestamp.ofJson?
  let completedAt ← .optional "completed_at" Timestamp.ofJson?
  let link ← .optional "html_url" Json.text?
  let steps ← .defaulted "steps" (Json.list? RemoteStep.ofJson?) []
  return { name, status, conclusion, startedAt, completedAt, link, steps }

/-- The written form of a job. -/
def toJson (j : RemoteJob) : Json :=
  .obj [("name", .str j.name), ("status", j.status.toJson),
    ("conclusion", .ofOption Conclusion.toJson j.conclusion),
    ("started_at", .ofOption Timestamp.toJson j.startedAt),
    ("completed_at", .ofOption Timestamp.toJson j.completedAt),
    ("html_url", .ofOption .str j.link), ("steps", .ofList RemoteStep.toJson j.steps)]

/-- Whether the job or one of its steps has left the queue. -/
def hasStarted (j : RemoteJob) : Bool :=
  j.status.hasStarted || j.steps.any fun s ↦ s.status.hasStarted

end RemoteJob

/-- A run at one moment, as the remote side says it. Record `RemoteRunSnapshot`. -/
structure RunSnapshot where
  /-- The number of the run. -/
  run : Nat
  /-- Where it stands. -/
  status : RemoteStatus
  /-- How it has ended. -/
  conclusion : Option Conclusion
  /-- Its jobs. -/
  jobs : List RemoteJob
deriving DecidableEq, Inhabited

namespace RunSnapshot

/-- Reads a snapshot. -/
def ofJson? : Json → Option RunSnapshot := Json.record? do
  let run ← .required "run_id" (Json.unsigned? 64)
  let status ← .required "status" RemoteStatus.ofJson?
  let conclusion ← .optional "conclusion" Conclusion.ofJson?
  let jobs ← .defaulted "jobs" (Json.list? RemoteJob.ofJson?) []
  return { run, status, conclusion, jobs }

/-- The written form of a snapshot. -/
def toJson (s : RunSnapshot) : Json :=
  .obj [("run_id", .ofNat s.run), ("status", s.status.toJson),
    ("conclusion", .ofOption Conclusion.toJson s.conclusion),
    ("jobs", .ofList RemoteJob.toJson s.jobs)]

/-- Whether a job or a step has left the queue. Function `RemoteRunSnapshot.has_started`. -/
def hasStarted (s : RunSnapshot) : Bool := s.jobs.any RemoteJob.hasStarted

/-- Where the run stands. Function `run_status`. -/
def runStatus (s : RunSnapshot) : RunStatus :=
  if s.status = .completed then Conclusion.runStatus s.conclusion
  else if s.hasStarted then .running
  else .pending

end RunSnapshot

end Blockflow
