import Blockflow.Pipeline.Names
import Blockflow.Workflow.Graph

/-!
# The plan of jobs

The blocks that a run goes through are put in order, each after everything that comes before it and
the smallest id first. Along this order they are put into jobs. A block opens a job if it does not
have exactly one block right before it, if it is a control block, or if it is a build step and the
block before it has several blocks right after it. Any other block goes into the job of the block
before it. A job needs the jobs of all blocks right before its opener.

Component `compiler` of `workflow-engine`; specification §4.4 and C.4.
-/

namespace Blockflow

/-- The graph of the blocks that a run goes through. Record `DependencyGraph`. -/
structure StepGraph where
  /-- The ids of the blocks, ascending. -/
  ids : List String
  /-- The connections between these blocks, as pairs of source and target. -/
  edges : List (String × String)
deriving DecidableEq

namespace StepGraph

/-- The graph of a workflow's steps. Function `DependencyGraph.build`. -/
def ofWorkflow (w : Workflow) (r : Registry) : StepGraph :=
  let ids := w.stepIds r
  ⟨ids, w.edgesAmong ids⟩

/-- The blocks right before a block, ascending. Function `preds`. -/
def before (g : StepGraph) (id : String) : List String :=
  Graph.ascending (Workflow.predecessors g.edges id)

/-- The blocks right after a block, ascending. Counted by `fan_out`. -/
def after (g : StepGraph) (id : String) : List String :=
  Graph.ascending (Workflow.successors g.edges id)

/-- Puts what is left in order: the smallest id of which nothing that is left comes before. What
lies on or behind a cycle is left out. -/
def orderFrom (g : StepGraph) : Nat → (left : List String) → List String
  | 0, _ => []
  | n + 1, left =>
    match left.find? fun id ↦ (g.before id).all (!left.contains ·) with
    | none => []
    | some id => id :: orderFrom g n (left.erase id)

/-- The ids in order. Part of `DependencyGraph.build`. -/
def order (g : StepGraph) : List String := g.orderFrom g.ids.length g.ids

end StepGraph

/-- The last element with the given id. -/
def Workflow.lastStep? (w : Workflow) (r : Registry) (id : String) : Option Block :=
  (w.steps r).reverse.find? fun b ↦ b.id == id

/-- The steps of a workflow in order. -/
def Workflow.orderedSteps (w : Workflow) (r : Registry) : List Block :=
  (StepGraph.ofWorkflow w r).order.filterMap (w.lastStep? r)

/-- A job with the blocks that it is made of. Record `PlannedJob`. -/
structure PlannedJob where
  /-- The key of the job. -/
  key : String
  /-- The block that opens it. -/
  opener : Block
  /-- The keys of the jobs that come before it, ascending. -/
  needs : List String
  /-- The blocks in order, the opener first. -/
  blocks : List Block
deriving DecidableEq, Inhabited

namespace PlannedJob

/-- Whether a job holds the block with the given id. -/
def holds (j : PlannedJob) (id : String) : Bool := j.blocks.any fun b ↦ b.id == id

end PlannedJob

namespace Plan

/-- The first of the keys `key-2`, `key-3` and so on that is not taken. -/
def numberedKey (taken : List String) (key : String) : Nat → Nat → String
  | 0, n => key ++ "-" ++ toString n
  | fuel + 1, n =>
    let candidate := key ++ "-" ++ toString n
    if taken.contains candidate then numberedKey taken key fuel (n + 1) else candidate

/-- The key, or the first numbered form of it that is not taken. Part of `plan_jobs`. -/
def freeKey (taken : List String) (key : String) : String :=
  if taken.contains key then numberedKey taken key taken.length 2 else key

/-- The block before a block whose job the block goes into, if it opens no job. Part of `plan_jobs`.
-/
def joined? (g : StepGraph) (r : Registry) (b : Block) : Option String :=
  match g.before b.id with
  | [single] =>
    let category := r.category? b.tag
    let forks := category = some .job && (g.after single).length > 1
    if category = some .control || forks then none else some single
  | _ => none

/-- The job that a block opens after the given ones. -/
def opened (g : StepGraph) (jobs : List PlannedJob) (b : Block) : PlannedJob :=
  let needed := (g.before b.id).filterMap fun p ↦ (jobs.find? (·.holds p)).map (·.key)
  { key := freeKey (jobs.map (·.key)) b.jobKey, opener := b, needs := Graph.ascending needed,
    blocks := [b] }

/-- The jobs with one more block. Part of `plan_jobs`. -/
def place (g : StepGraph) (r : Registry) (jobs : List PlannedJob) (b : Block) :
    List PlannedJob :=
  match joined? g r b with
  | some p =>
    if jobs.any (·.holds p) then
      Workflow.changeFirst (·.holds p) (fun j ↦ { j with blocks := j.blocks ++ [b] }) jobs
    else jobs ++ [opened g jobs b]
  | none => jobs ++ [opened g jobs b]

/-- The jobs of blocks that are in order. -/
def ofOrder (g : StepGraph) (r : Registry) (blocks : List Block) : List PlannedJob :=
  blocks.foldl (place g r) []

end Plan

/-- The plan of a workflow's jobs. Function `plan_jobs`. -/
def Workflow.plan (w : Workflow) (r : Registry) : List PlannedJob :=
  Plan.ofOrder (StepGraph.ofWorkflow w r) r (w.orderedSteps r)

end Blockflow
