import Blockflow.Pipeline.Document
import Blockflow.Text.Pieces
import Blockflow.Workflow.Graph
import Blockflow.Yaml.Reader

/-!
# Triggers

The events that start a pipeline, from the trigger blocks of its workflow in the order of their
ids. Several blocks for one kind of event are put together.

Component `compiler` of `workflow-engine`; specification §4.4 and C.4.
-/

namespace Blockflow

namespace Block

/-- A setting that is a text with more than blanks, without the blanks at its ends. Function
`non_empty`. -/
def filled? (b : Block) (key : String) : Option String := (b.text? key).bind Text.nonBlank?

/-- A setting that is a text with commas, as the list of its parts. Function `split_list`. -/
def listed (b : Block) (key : String) : List String := Text.listed ((b.text? key).getD "")

/-- The texts of a setting that is a list. Function `string_list`. -/
def texts (b : Block) (key : String) : List String :=
  match (b.config.get? key).bind Json.items? with
  | some items => items.filterMap Json.text?
  | none => []

/-- The events that a block for commits leaves through. -/
def pushFilter (b : Block) : EventFilter := ⟨[], b.listed "branches", b.listed "paths"⟩

/-- The events that a block for pull requests leaves through. -/
def pullRequestFilter (b : Block) : EventFilter := ⟨b.texts "types", b.listed "branches", []⟩

/-- The events that a block for releases leaves through. -/
def releaseFilter (b : Block) : EventFilter := ⟨b.texts "types", [], []⟩

end Block

namespace Events

/-- A filter put behind the one that is there. -/
def addFilter (there : Option EventFilter) (f : EventFilter) : Option EventFilter :=
  some ((there.getD .free).merge f)

/-- Inputs put behind those that are there; of two inputs with one name the first stays. -/
def addInputs (there : Option Yaml) (more : Yaml) : Option Yaml :=
  match there, more with
  | none, more => some more
  | some (.map old), .map new =>
    some (.map (new.foldl (fun l e ↦ if (Yaml.lookup e.1 l).isSome then l else l ++ [e]) old))
  | some old, _ => some old

/-- The events with those of one more trigger. A manual trigger whose inputs are no YAML is refused.
Part of `emit_triggers`. -/
def add? (e : Events) (b : Block) : Option Events :=
  match Kind.ofTag? b.tag with
  | some .triggerPush => some { e with push := addFilter e.push b.pushFilter }
  | some .triggerPr => some { e with pullRequest := addFilter e.pullRequest b.pullRequestFilter }
  | some .triggerRelease => some { e with release := addFilter e.release b.releaseFilter }
  | some .triggerSchedule =>
    match b.filled? "cron" with
    | some cron => some { e with schedule := some (e.schedule.getD [] ++ [cron]) }
    | none => some e
  | some .triggerManual =>
    let there := e.dispatch.bind (·.inputs)
    match b.filled? "inputs" with
    | none => some { e with dispatch := some ⟨there⟩ }
    | some source =>
      (Yaml.read? source).map fun inputs ↦ { e with dispatch := some ⟨addInputs there inputs⟩ }
  | _ => some e

end Events

/-- The trigger blocks in the order of their ids. -/
def Workflow.sortedTriggers (w : Workflow) (r : Registry) : List Block :=
  (w.triggers r).mergeSort fun a b ↦ a.id ≤ b.id

/-- The events that start a workflow's pipeline. Function `emit_triggers`. -/
def Workflow.events? (w : Workflow) (r : Registry) : Option Events :=
  (w.sortedTriggers r).foldlM Events.add? .empty

end Blockflow
