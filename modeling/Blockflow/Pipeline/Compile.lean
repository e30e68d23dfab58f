import Blockflow.Pipeline.Plan
import Blockflow.Pipeline.Steps
import Blockflow.Workflow.Validation

/-!
# Compiling a workflow

A workflow without problems becomes a pipeline: the text of a document, and the names under which
its steps and jobs are reported.

Component `compiler` of `workflow-engine`; specification §4.4 and C.4.
-/

namespace Blockflow

/-- A compiled workflow. Record `PipelineDocument`. -/
structure Pipeline where
  /-- The text of the document. -/
  text : String
  /-- The names of its steps and jobs. -/
  names : NameMap
deriving DecidableEq, Inhabited

/-- Why a workflow cannot be compiled. Enumeration `CompileError`. -/
inductive CompileError where
  /-- It has problems. -/
  | invalid (problems : List Problem)
  /-- A setting that has to be YAML is none, or a value cannot be written. -/
  | yaml
deriving DecidableEq

namespace CompileError

/-- The error in words. -/
def message : CompileError → String
  | .invalid problems =>
    "Cannot compile an invalid workflow (" ++ toString problems.length ++ " validation error(s))"
  | .yaml => "YAML error: not a document"

end CompileError

namespace Compile

/-- The machine that every job runs on. Constant `RUNNER`. -/
def runner : String := "ubuntu-latest"

/-- A planned job with its steps, each with the block that it comes from. -/
structure FilledJob where
  /-- What was planned. -/
  plan : PlannedJob
  /-- The steps with the ids of their blocks. -/
  steps : List (String × Step)
deriving Inhabited

/-- The steps of a planned job. Part of `emit_jobs`. -/
def fill? (j : PlannedJob) : Option FilledJob := do
  let steps ← j.blocks.mapM fun b ↦ do
    let steps ← b.steps?
    return steps.map (b.id, ·)
  return ⟨j, steps.flatten⟩

/-- Whether a job is opened by a control block. -/
def isControlled (r : Registry) (j : PlannedJob) : Bool :=
  r.category? j.opener.tag = some .control

/-- The step of a job that would have none. Part of `emit_jobs`. -/
def placeholder (r : Registry) (opener : Block) : Step :=
  let name := ((r.get? opener.tag).map (·.name)).getD opener.tag
  .run opener.stepName ("echo \"" ++ name ++ " reached\"")

/-- The environment that a job deploys to: the first one that its blocks name. Part of `emit_jobs`.
-/
def environment? (j : PlannedJob) : Option String :=
  (j.blocks.filter fun b ↦ b.tag == Kind.utilityEnv.tag).findSome? fun b ↦ b.filled? "environment"

/-- The condition for a job, if its opener says one. Part of `emit_jobs`. -/
def condition? (opener : Block) : Option String :=
  if Kind.ofTag? opener.tag = some .controlCondition then opener.filled? "condition" else none

/-- How a job is run several times, if its opener says so; nothing if its matrix is no YAML. Part of
`emit_jobs`. -/
def strategy? (opener : Block) : Option (Option Strategy) :=
  if Kind.ofTag? opener.tag = some .controlMatrix then
    (Yaml.read? ((opener.filled? "matrix").getD "")).map fun matrix ↦
      some ⟨matrix, opener.flagOf "failFast" true⟩
  else some none

/-- The job in the document. Part of `emit_jobs`. -/
def job? (r : Registry) (f : FilledJob) : Option (String × Job) := do
  let strategy ← strategy? f.plan.opener
  let steps := f.steps.map (·.2)
  return (f.plan.key,
    { runner
      needs := f.plan.needs
      condition := condition? f.plan.opener
      environment := environment? f.plan
      strategy
      steps := if steps.isEmpty then [placeholder r f.plan.opener] else steps })

/-- The names of a job: those of its steps, and its key if a control block opens it. Part of
`emit_jobs`. -/
def addNames (r : Registry) (m : NameMap) (f : FilledJob) : NameMap :=
  let m := f.steps.foldl (fun m s ↦ m.insertStep s.2.name s.1) m
  if isControlled r f.plan then m.insertJob f.plan.key f.plan.opener.id else m

end Compile

open Compile in
/-- The document of a workflow, and its names. Functions `emit_triggers`, `plan_jobs` and
`emit_jobs`. -/
def Workflow.document? (w : Workflow) (r : Registry) : Option (Document × NameMap) := do
  let events ← w.events? r
  let filled ← (w.plan r).mapM fill?
  let jobs ← filled.mapM (job? r)
  return (⟨w.name, events, jobs⟩, filled.foldl (addNames r) .empty)

/-- The pipeline of a workflow. Function `compile`. -/
def Workflow.compile (w : Workflow) (r : Registry) : Except CompileError Pipeline :=
  if w.isValid r then
    match w.document? r with
    | some (document, names) =>
      match document.toYaml.text? with
      | some text => .ok ⟨text, names⟩
      | none => .error .yaml
    | none => .error .yaml
  else .error (.invalid (w.problems r))

end Blockflow
