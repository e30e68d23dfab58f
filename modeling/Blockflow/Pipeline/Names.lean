import Blockflow.Text.Pieces
import Blockflow.Workflow.Basic

/-!
# Names

Steps and jobs carry names that tell which block they come from: the one who runs a pipeline
reports under these names, and a name map leads back to the blocks. The name of a pipeline's file
comes from the name of its workflow.

Component `naming` of `workflow-engine`; specification §4.4 and C.4.
-/

namespace Blockflow

/-- The blocks behind the names of steps and the keys of jobs. Record `NameMap`. -/
structure NameMap where
  /-- Block ids by the names of steps. -/
  steps : Dict String
  /-- Block ids by the keys of jobs. -/
  jobs : Dict String
deriving DecidableEq, Inhabited

namespace NameMap

/-- The map without names. -/
def empty : NameMap := ⟨.empty, .empty⟩

/-- With the name of a step. Function `insert_step`. -/
def insertStep (m : NameMap) (name block : String) : NameMap :=
  { m with steps := m.steps.insert name block }

/-- With the key of a job. Function `insert_job`. -/
def insertJob (m : NameMap) (key block : String) : NameMap :=
  { m with jobs := m.jobs.insert key block }

/-- The block of a step. Function `resolve_step`. -/
def step? (m : NameMap) (name : String) : Option String := m.steps.get? name

/-- The key in the name of a job that a matrix has made: what stands before the last opening
parenthesis that follows a space, where the name ends with a closing one. Part of `resolve_job`. -/
def matrixKey? (name : String) : Option String :=
  let cs := Text.trimRight name.toList
  if cs.getLast? = some ')' then (Text.beforeLast? [' ', '('] cs).map String.ofList else none

/-- The block of a job, which may be one of a matrix. Function `resolve_job`. -/
def job? (m : NameMap) (name : String) : Option String :=
  match m.jobs.get? name with
  | some block => some block
  | none => (matrixKey? name).bind m.jobs.get?

/-- Every block that has a name, once each, in ascending order. Function `block_ids`. -/
def blocks (m : NameMap) : List String :=
  (Dict.ofList ((m.steps.values ++ m.jobs.values).map (·, ()))).keys

/-- Reads a name map. -/
def ofJson? : Json → Option NameMap := Json.record? do
  let steps ← .defaulted "steps" (Json.dictOf? Json.text?) .empty
  let jobs ← .defaulted "jobs" (Json.dictOf? Json.text?) .empty
  return ⟨steps, jobs⟩

/-- The written form of a name map. -/
def toJson (m : NameMap) : Json :=
  .obj [("steps", .ofDict .str m.steps), ("jobs", .ofDict .str m.jobs)]

end NameMap

/-! ### Steps and jobs -/

/-- A text without the dollar signs that, before two braces, would open an expression. Function
`literal`. -/
def withoutMarkers : List Char → List Char
  | [] => []
  | c :: cs =>
    let rest := withoutMarkers cs
    if c = '$' && ['{', '{'].isPrefixOf rest then rest else c :: rest

namespace Block

/-- The label without blanks around it, if something is left of it. -/
def ownLabel? (b : Block) : Option String := b.label.bind Text.nonBlank?

/-- The name of the step of a block: its label and its id, or its tag and its id. The one who runs
the pipeline finds no expression in it. Function `step_name`. -/
def stepName (b : Block) : String :=
  let name :=
    match b.ownLabel? with
    | some label => label ++ " (" ++ b.id ++ ")"
    | none => b.tag ++ "-" ++ b.id
  String.ofList (withoutMarkers name.toList)

/-- The name of a further step of a block. Function `auxiliary_step_name`. -/
def auxiliaryStepName (b : Block) (purpose : String) : String :=
  b.stepName ++ " (" ++ purpose ++ ")"

/-- Whether a character may start the key of a job. -/
def isKeyStart (c : Char) : Bool := c.isAlpha || c == '_'

/-- Whether a character may stand in the key of a job. -/
def isKeyChar (c : Char) : Bool := c.isAlphanum || c == '-' || c == '_'

/-- A text as the key of a job. -/
def keyOf (cs : List Char) : List Char :=
  let key := cs.map fun c ↦ if isKeyChar c then c else '_'
  if key.head?.any isKeyStart then key else '_' :: key

/-- The key of the job that a block opens. Function `job_key`. -/
def jobKey (b : Block) : String := String.ofList (keyOf (b.tag ++ "-" ++ b.id).toList)

end Block

/-! ### Files -/

/-- What a character becomes in the name of a file. -/
def fileChar? (c : Char) : Option Char :=
  if c = ' ' || c = '_' || c = '-' then some '-' else if c.isAlphanum then some c else none

/-- A text without dashes at its ends. -/
def trimDashes (cs : List Char) : List Char :=
  ((cs.dropWhile (· = '-')).reverse.dropWhile (· = '-')).reverse

/-- The name of a pipeline's file without its ending: the small letters, digits and dashes of the
workflow's name, or its id if nothing is left. Function `safe_file_stem`. -/
def fileStem (name id : String) : String :=
  let lower := (Text.trimBoth name.toList).flatMap Text.lowerAscii
  let stem := trimDashes (lower.filterMap fileChar?)
  if stem.isEmpty then "workflow-" ++ id else String.ofList stem

/-- The directory of pipelines. -/
def pipelineDirectory : String := ".github/workflows/"

/-- The path of a workflow's pipeline. Function `workflow_file_path`. -/
def filePath (name id : String) : String := pipelineDirectory ++ fileStem name id ++ ".yml"

/-- The name of the file at a path. Function `workflow_file_name` of `remote`. -/
def fileName (path : String) : String := String.ofList (Text.afterLast '/' path.toList)

/-- The path of a workflow's pipeline. -/
def Workflow.path (w : Workflow) : String := filePath w.name w.id

end Blockflow
