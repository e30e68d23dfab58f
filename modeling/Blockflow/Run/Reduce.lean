import Blockflow.Pipeline.Names
import Blockflow.Run.Execution
import Blockflow.Run.Snapshot

/-!
# Following a run

A snapshot moves an execution forward. The names of jobs and steps lead to blocks; what is reported
of one block is put together; a block never goes back; and once the run has ended, no block is left
waiting. Points in time come from the snapshot, never from a clock.

Component `execution` of `workflow-engine`; specification §4.5 and C.5.
-/

namespace Blockflow

/-- What a job or a step says about a block. Record `Observation`. -/
structure Observation where
  /-- Where it stands. -/
  status : BlockStatus
  /-- When it started. -/
  startedAt : Option Timestamp
  /-- When it ended. -/
  finishedAt : Option Timestamp
  /-- Where the log is. -/
  log : Option String
deriving DecidableEq, Inhabited

namespace Observation

/-- Where a block stands of which the remote side says this. Function `block_status`. -/
def statusOf (status : RemoteStatus) (conclusion : Option Conclusion) : BlockStatus :=
  match status with
  | .inProgress => .running
  | .completed => Conclusion.blockStatus conclusion
  | _ => .pending

/-- What a job says about its block. -/
def ofJob (j : RemoteJob) : Observation :=
  ⟨statusOf j.status j.conclusion, j.startedAt, j.completedAt, j.link⟩

/-- What a step of a job says about its block. -/
def ofStep (j : RemoteJob) (s : RemoteStep) : Observation :=
  ⟨statusOf s.status s.conclusion, s.startedAt, s.completedAt, j.link⟩

/-- Everything that a job and its steps say, with the blocks that their names lead to. -/
def inJob (names : NameMap) (j : RemoteJob) : List (String × Observation) :=
  ((names.job? j.name).map (·, ofJob j)).toList ++
    j.steps.filterMap fun s ↦ (names.step? s.name).map (·, ofStep j s)

/-- Everything that a snapshot says, with the blocks that the names lead to. -/
def ofSnapshot (names : NameMap) (s : RunSnapshot) : List (String × Observation) :=
  s.jobs.flatMap (inJob names)

/-- Everything that is said about one block. -/
def about (block : String) (all : List (String × Observation)) : List Observation :=
  (all.filter fun o ↦ o.1 == block).map (·.2)

/-- Where a block stands about which all this is said. One failure is a failure of all; it has come
to its end when all have, and has started when one has. Function `aggregate`. -/
def aggregate (all : List Observation) : BlockStatus :=
  if all.any (·.status = .failure) then .failure
  else if all.all (·.status.isTerminal) then
    if all.all (·.status = .skipped) then .skipped else .success
  else if all.any fun o ↦ o.status.isTerminal || o.status = .running then .running
  else .pending

end Observation

namespace BlockState

/-- The state of a block after all that is said about it. Part of `reduce`. -/
def observe (s : BlockState) (all : List Observation) : BlockState :=
  let status := Observation.aggregate all
  if all.isEmpty || s.status.isTerminal || status.rank < s.status.rank then s
  else
    { s with
      status
      startedAt := s.startedAt.or (Timestamp.earliest? (all.filterMap (·.startedAt)))
      finishedAt :=
        if status.isTerminal then Timestamp.latest? (all.filterMap (·.finishedAt))
        else s.finishedAt
      log := s.log.or (all.findSome? (·.log)) }

/-- The state of a block after the end of its run. Part of `reduce`. -/
def settle (run : RunStatus) (s : BlockState) : BlockState :=
  match s.status with
  | .pending => { s with status := .skipped }
  | .running =>
    { s with
      status := match run with
        | .success => .success
        | .failure => .failure
        | _ => .skipped }
  | _ => s

end BlockState

namespace Execution

/-- The blocks after all that is said about them. -/
def observed (e : Execution) (all : List (String × Observation)) : Dict BlockState :=
  e.blocks.mapEntries fun block s ↦ s.observe (Observation.about block all)

/-- Where the run stands: as reported, but no longer pending once it or one of its blocks has
started. Part of `reduce`. -/
def nextStatus (e : Execution) (s : RunSnapshot) (blocks : Dict BlockState) : RunStatus :=
  let status := s.runStatus
  if status = .pending && (e.status = .running || blocks.values.any (·.status ≠ .pending)) then
    .running
  else status

/-- The execution after a snapshot. A snapshot of another run, or after the end, changes nothing.
Function `reduce`. -/
def reduce (e : Execution) (s : RunSnapshot) (names : NameMap) : Execution :=
  if e.isTerminal || s.run ≠ e.run then e
  else
    let blocks := e.observed (Observation.ofSnapshot names s)
    let status := e.nextStatus s blocks
    if status.isTerminal then
      { e with
        status
        blocks := blocks.mapEntries fun _ b ↦ b.settle status
        finishedAt :=
          some ((Timestamp.latest? (s.jobs.filterMap (·.completedAt))).getD e.startedAt) }
    else { e with status, blocks }

/-- The blocks that stand elsewhere in the second execution than in the first. Function
`changed_blocks`. -/
def changedBlocks (before after : Execution) : List BlockState :=
  after.blocks.values.filter fun s ↦ before.blockStatus? s.block ≠ some s.status

end Execution

end Blockflow
