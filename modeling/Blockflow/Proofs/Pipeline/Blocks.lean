import Blockflow.Pipeline.Compile

/-!
# What a document reads of its blocks

A document is made from the ids, the tags and the labels of the blocks of a workflow, and from what
a few functions read off their settings. Blocks may be changed in every way that leaves all of this
alone: the plan is then the same but for the changed blocks in it, and the document is the same.
-/

namespace Blockflow

open Compile

/-- Whether a document reads the same of two blocks. -/
structure Block.ReadsAs (b c : Block) : Prop where
  /-- They have one id. -/
  id : b.id = c.id
  /-- They have one tag. -/
  tag : b.tag = c.tag
  /-- They have one label. -/
  label : b.label = c.label
  /-- They have the same steps. -/
  steps? : b.steps? = c.steps?
  /-- As triggers they start the pipeline alike. -/
  add? : ∀ e : Events, e.add? b = e.add? c
  /-- They have one condition for a job. -/
  condition? : Compile.condition? b = Compile.condition? c
  /-- They have one matrix. -/
  strategy? : Compile.strategy? b = Compile.strategy? c
  /-- They name one environment. -/
  environment : b.filled? "environment" = c.filled? "environment"

theorem Block.ReadsAs.refl (b : Block) : b.ReadsAs b where
  id := rfl
  tag := rfl
  label := rfl
  steps? := rfl
  add? _ := rfl
  condition? := rfl
  strategy? := rfl
  environment := rfl

/-- The job with every block changed. -/
def PlannedJob.mapBlocks (f : Block → Block) (j : PlannedJob) : PlannedJob :=
  { j with opener := f j.opener, blocks := j.blocks.map f }

/-- The filled job with every block changed. -/
def Compile.FilledJob.mapBlocks (f : Block → Block) (j : FilledJob) : FilledJob :=
  { j with plan := j.plan.mapBlocks f }

/-- The workflow with every block changed. -/
def Workflow.mapBlocks (f : Block → Block) (w : Workflow) : Workflow :=
  { w with blocks := w.blocks.map f }

variable {f : Block → Block}

namespace Workflow

variable (w : Workflow) (r : Registry)

/-! ### Steps and triggers -/

section Tags

variable (htag : ∀ b, (f b).tag = b.tag)
include htag

theorem steps_mapBlocks : (w.mapBlocks f).steps r = (w.steps r).map f := by
  rw [steps, steps, mapBlocks, List.filter_map]
  simp only [Function.comp_def, isTrigger, htag]

theorem triggers_mapBlocks : (w.mapBlocks f).triggers r = (w.triggers r).map f := by
  rw [triggers, triggers, mapBlocks, List.filter_map]
  simp only [Function.comp_def, isTrigger, htag]
  rfl

variable (hid : ∀ b, (f b).id = b.id)
include hid

theorem stepIds_mapBlocks : (w.mapBlocks f).stepIds r = w.stepIds r := by
  rw [stepIds, stepIds, steps_mapBlocks w r htag, List.map_map]
  simp only [Function.comp_def, hid]

theorem stepGraph_mapBlocks :
    StepGraph.ofWorkflow (w.mapBlocks f) r = StepGraph.ofWorkflow w r := by
  rw [StepGraph.ofWorkflow, StepGraph.ofWorkflow, stepIds_mapBlocks w r htag hid]
  rfl

theorem orderedSteps_mapBlocks :
    (w.mapBlocks f).orderedSteps r = (w.orderedSteps r).map f := by
  rw [orderedSteps, orderedSteps, stepGraph_mapBlocks w r htag hid, List.map_filterMap]
  congr 1
  funext id
  rw [lastStep?, lastStep?, steps_mapBlocks w r htag, ← List.map_reverse, List.find?_map]
  simp only [Function.comp_def, hid]

theorem sortedTriggers_mapBlocks :
    (w.mapBlocks f).sortedTriggers r = (w.sortedTriggers r).map f := by
  rw [sortedTriggers, sortedTriggers, triggers_mapBlocks w r htag]
  refine (List.map_mergeSort (f := f) fun a _ b _ ↦ ?_).symm
  rw [hid, hid]

end Tags

end Workflow

/-! ### Planned jobs -/

namespace Plan

variable (g : StepGraph) (r : Registry)

private theorem holds_mapBlocks (hid : ∀ b, (f b).id = b.id) (j : PlannedJob) (id : String) :
    (j.mapBlocks f).holds id = j.holds id := by
  rw [PlannedJob.holds, PlannedJob.holds, PlannedJob.mapBlocks, List.any_map]
  simp only [Function.comp_def, hid]

section Ids

variable (hid : ∀ b, (f b).id = b.id)
include hid

private theorem changeFirst_mapBlocks (id : String) (b : Block) (jobs : List PlannedJob) :
    Workflow.changeFirst (·.holds id) (fun j ↦ { j with blocks := j.blocks ++ [f b] })
        (jobs.map (PlannedJob.mapBlocks f)) =
      (Workflow.changeFirst (·.holds id) (fun j ↦ { j with blocks := j.blocks ++ [b] })
        jobs).map (PlannedJob.mapBlocks f) := by
  induction jobs with
  | nil => rfl
  | cons j jobs ih =>
    rw [List.map_cons, Workflow.changeFirst, Workflow.changeFirst, holds_mapBlocks hid]
    split
    · rw [List.map_cons]
      congr 1
      simp [PlannedJob.mapBlocks]
    · rw [ih, List.map_cons]

variable (htag : ∀ b, (f b).tag = b.tag)
include htag

private theorem opened_mapBlocks (jobs : List PlannedJob) (b : Block) :
    opened g (jobs.map (PlannedJob.mapBlocks f)) (f b) = (opened g jobs b).mapBlocks f := by
  have hfind (id : String) :
      ((jobs.map (PlannedJob.mapBlocks f)).find? (·.holds id)).map (·.key) =
        (jobs.find? (·.holds id)).map (·.key) := by
    rw [List.find?_map, Option.map_map]
    simp only [Function.comp_def, holds_mapBlocks hid]
    rfl
  have hkeys : (jobs.map (PlannedJob.mapBlocks f)).map (·.key) = jobs.map (·.key) := by
    rw [List.map_map]
    rfl
  have hkey : (f b).jobKey = b.jobKey := by rw [Block.jobKey, Block.jobKey, htag, hid]
  unfold opened
  rw [hkeys, hkey, hid]
  simp only [hfind]
  rfl

private theorem place_mapBlocks (jobs : List PlannedJob) (b : Block) :
    place g r (jobs.map (PlannedJob.mapBlocks f)) (f b) =
      (place g r jobs b).map (PlannedJob.mapBlocks f) := by
  have hjoined : joined? g r (f b) = joined? g r b := by rw [joined?, joined?, hid, htag]
  have hany (id : String) :
      (jobs.map (PlannedJob.mapBlocks f)).any (·.holds id) = jobs.any (·.holds id) := by
    rw [List.any_map]
    simp only [Function.comp_def, holds_mapBlocks hid]
  unfold place
  rw [hjoined]
  split
  · rw [hany]
    split
    · exact changeFirst_mapBlocks hid _ b jobs
    · rw [opened_mapBlocks g hid htag, List.map_append, List.map_singleton]
  · rw [opened_mapBlocks g hid htag, List.map_append, List.map_singleton]

private theorem foldl_place_mapBlocks (blocks : List Block) (jobs : List PlannedJob) :
    (blocks.map f).foldl (place g r) (jobs.map (PlannedJob.mapBlocks f)) =
      (blocks.foldl (place g r) jobs).map (PlannedJob.mapBlocks f) := by
  induction blocks generalizing jobs with
  | nil => rfl
  | cons b blocks ih =>
    rw [List.map_cons, List.foldl_cons, place_mapBlocks g r hid htag, ih, List.foldl_cons]

end Ids

end Plan

/-! ### The document -/

namespace Compile

variable (hf : ∀ b, (f b).ReadsAs b)
include hf

private theorem fill?_mapBlocks (j : PlannedJob) :
    fill? (j.mapBlocks f) = (fill? j).map (FilledJob.mapBlocks f) := by
  rw [fill?, fill?, PlannedJob.mapBlocks, List.mapM_map, Option.bind_eq_bind, Option.bind_eq_bind,
    Option.map_bind]
  simp only [Function.comp_def, fun b ↦ (hf b).steps?, fun b ↦ (hf b).id]
  rfl

private theorem environment?_mapBlocks (j : PlannedJob) :
    environment? (j.mapBlocks f) = environment? j := by
  rw [environment?, environment?, PlannedJob.mapBlocks, List.filter_map, List.findSome?_map]
  simp only [Function.comp_def, fun b ↦ (hf b).tag, fun b ↦ (hf b).environment]

private theorem job?_mapBlocks (r : Registry) (j : FilledJob) :
    job? r (j.mapBlocks f) = job? r j := by
  have hstep : (f j.plan.opener).stepName = j.plan.opener.stepName := by
    simp only [Block.stepName, Block.ownLabel?, (hf _).label, (hf _).tag, (hf _).id]
  have hplaceholder : placeholder r (f j.plan.opener) = placeholder r j.plan.opener := by
    rw [placeholder, placeholder, (hf _).tag, hstep]
  unfold job?
  simp only [FilledJob.mapBlocks, environment?_mapBlocks hf]
  simp only [PlannedJob.mapBlocks, (hf _).strategy?, (hf _).condition?, hplaceholder]

private theorem addNames_mapBlocks (r : Registry) (m : NameMap) (j : FilledJob) :
    addNames r m (j.mapBlocks f) = addNames r m j := by
  have hcontrolled : isControlled r (j.mapBlocks f).plan = isControlled r j.plan := by
    simp only [isControlled, FilledJob.mapBlocks, PlannedJob.mapBlocks, (hf _).tag]
  simp only [addNames, hcontrolled]
  simp only [FilledJob.mapBlocks, PlannedJob.mapBlocks, (hf _).id]

private theorem mapM_fill?_mapBlocks (jobs : List PlannedJob) :
    (jobs.map (PlannedJob.mapBlocks f)).mapM fill? =
      (jobs.mapM fill?).map (List.map (FilledJob.mapBlocks f)) := by
  induction jobs with
  | nil => rfl
  | cons j jobs ih =>
    rw [List.map_cons, List.mapM_cons, List.mapM_cons, fill?_mapBlocks hf, ih]
    cases fill? j with
    | none => rfl
    | some f => cases jobs.mapM fill? <;> rfl

end Compile

namespace Workflow

variable (w : Workflow) (r : Registry)

theorem plan_mapBlocks (hid : ∀ b, (f b).id = b.id) (htag : ∀ b, (f b).tag = b.tag) :
    (w.mapBlocks f).plan r = (w.plan r).map (PlannedJob.mapBlocks f) := by
  rw [plan, plan, stepGraph_mapBlocks w r htag hid, orderedSteps_mapBlocks w r htag hid]
  exact Plan.foldl_place_mapBlocks _ _ hid htag _ []

variable (hf : ∀ b, (f b).ReadsAs b)
include hf

theorem events?_mapBlocks : (w.mapBlocks f).events? r = w.events? r := by
  rw [events?, events?, sortedTriggers_mapBlocks w r (fun b ↦ (hf b).tag) fun b ↦ (hf b).id,
    List.foldlM_map]
  simp only [fun b ↦ (hf b).add?]

/-- A workflow has the same document after a change of its blocks of which a document reads
nothing. -/
theorem document?_mapBlocks : (w.mapBlocks f).document? r = w.document? r := by
  rw [document?, document?, events?_mapBlocks w r hf,
    plan_mapBlocks w r (fun b ↦ (hf b).id) fun b ↦ (hf b).tag, mapM_fill?_mapBlocks hf]
  cases w.events? r with
  | none => rfl
  | some events =>
    cases (w.plan r).mapM fill? with
    | none => rfl
    | some filled =>
      simp only [Option.map_some, Option.bind_eq_bind, Option.bind_some, List.mapM_map,
        List.foldl_map, addNames_mapBlocks hf]
      have hjobs : job? r ∘ FilledJob.mapBlocks f = job? r := funext (job?_mapBlocks hf r)
      rw [hjobs]
      rfl

end Workflow

end Blockflow
