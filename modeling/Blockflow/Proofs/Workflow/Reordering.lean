import Blockflow.Proofs.Workflow.Connections

/-!
# Problems and the order of storage

In whatever order the blocks and the connections of a workflow are stored, a validation finds the
same problems, each as often. The lookups find the one block with an id, the searches find what
paths lead to, and the count of the connections into an input comes to the same number in the end.
-/

namespace Blockflow

open Blockflow.Graph

namespace Workflow

variable {w v : Workflow} {r : Registry} {a b id : String}

/-- Whether two workflows have the same blocks and the same connections, stored in whatever
order. -/
structure Rearranged (w v : Workflow) : Prop where
  /-- The blocks are the same. -/
  blocks : w.blocks.Perm v.blocks
  /-- The connections are the same. -/
  connections : w.connections.Perm v.connections

theorem Rearranged.symm (h : w.Rearranged v) : v.Rearranged w :=
  ⟨h.blocks.symm, h.connections.symm⟩

theorem Rearranged.block?_eq (h : w.Rearranged v) (hd : w.DistinctIds) (id : String) :
    w.block? id = v.block? id := by
  apply Option.ext
  intro b
  have hd' : v.DistinctIds := (distinctIds_of_perm h.blocks).mp hd
  rw [hd.block?_eq_some, hd'.block?_eq_some, h.blocks.mem_iff]

/-! ### The graph -/

theorem Rearranged.stepEdge_iff (h : w.Rearranged v) : w.StepEdge r a b ↔ v.StepEdge r a b := by
  have hids (id : String) : id ∈ (w.steps r).map (·.id) ↔ id ∈ (v.steps r).map (·.id) :=
    ((steps_perm h.blocks r).map _).mem_iff
  simp only [StepEdge, hids, h.connections.mem_iff]

theorem Rearranged.comesTo (h : w.Rearranged v) (hid : w.ComesTo r id) : v.ComesTo r id := by
  induction hid with
  | trigger hb => exact .trigger ((h.blocks.filter _).mem_iff.mp hb)
  | connection hc _ ih => exact .connection (h.connections.mem_iff.mp hc) ih

theorem Rearranged.comesTo_iff (h : w.Rearranged v) : w.ComesTo r id ↔ v.ComesTo r id :=
  ⟨h.comesTo, h.symm.comesTo⟩

end Workflow

namespace StepGraph

/-- In graphs with the same edges the same ids come before themselves. -/
theorem Alike.isOnCycle_eq {g h : StepGraph} (hgh : g.Alike h) (id : String) :
    Workflow.isOnCycle g.edges id = Workflow.isOnCycle h.edges id := by
  have hjoins : Joins g.edges = Joins h.edges := by
    funext a b
    exact propext (hgh.joins a b)
  rw [Bool.eq_iff_iff, Workflow.isOnCycle_iff, Workflow.isOnCycle_iff, hjoins]

end StepGraph

namespace Validation

open Workflow

variable {w v : Workflow} {r : Registry}

/-! ### Check by check -/

private theorem cycleFindings_eq_of_rearranged (h : w.Rearranged v) :
    cycleFindings w r = cycleFindings v r := by
  have halike : (StepGraph.ofWorkflow w r).Alike (StepGraph.ofWorkflow v r) :=
    alike_of_perm h.blocks fun _ _ ↦ h.stepEdge_iff
  have hcycle : isOnCycle (w.edgesAmong (w.stepIds r)) = isOnCycle (v.edgesAmong (v.stepIds r)) :=
    funext halike.isOnCycle_eq
  have hids : w.stepIds r = v.stepIds r := halike.ids
  simp only [cycleFindings]
  rw [hcycle, hids]

private theorem reachFindings_perm (h : w.Rearranged v) :
    (reachFindings w r).Perm (reachFindings v r) := by
  have hreached : (fun id ↦ !(reachedIds w r).contains id) =
      fun id ↦ !(reachedIds v r).contains id := by
    funext id
    congr 1
    rw [Bool.eq_iff_iff, List.contains_iff_mem, List.contains_iff_mem, mem_reachedIds,
      mem_reachedIds, h.comesTo_iff]
  have hids := ((steps_perm h.blocks r).map (·.id)).filter fun id ↦
    !(reachedIds v r).contains id
  simp only [reachFindings, hreached]
  exact ((List.mergeSort_perm _ _).trans (hids.trans (List.mergeSort_perm _ _).symm)).map _

private theorem triggerFindings_eq_of_rearranged (h : w.Rearranged v) :
    triggerFindings w r = triggerFindings v r := by
  have hnone : (w.triggers r).isEmpty = (v.triggers r).isEmpty :=
    (h.blocks.filter _).isEmpty_eq
  rw [triggerFindings, triggerFindings, hnone]

private theorem connectionFindings_perm_of_rearranged (h : w.Rearranged v) (hd : w.DistinctIds) :
    (connectionFindings w r [] w.connections).Perm (connectionFindings v r [] v.connections) := by
  have hblock : w.block? = v.block? := funext (h.block?_eq hd)
  have hlink : linkOf w r = linkOf v r := by
    funext c
    simp only [linkOf, hblock]
  have hfaults : faults w r = faults v r := by
    funext c
    simp only [faults, hlink]
  have hentered : entered? w r = entered? v r := by
    funext c
    simp only [entered?, hlink]
  have hlimit : limitAt? w r = limitAt? v r := by
    funext input
    simp only [limitAt?, hblock]
  have hcrowding : crowding? w r = crowding? v r := by
    funext input
    simp only [crowding?, hlimit]
  refine (connectionFindings_perm [] _).trans (.trans ?_ (connectionFindings_perm [] _).symm)
  rw [hfaults, hentered, hlimit, hcrowding]
  exact (h.connections.flatMap_right _).append
    ((exceeding_perm (h.connections.filterMap _)).filterMap _)

end Validation

namespace Workflow

open Validation

variable {w v : Workflow} {r : Registry}

private theorem findings_perm (h : w.Rearranged v) (hd : w.DistinctIds) :
    (w.findings r).Perm (v.findings r) := by
  rw [findings, findings, cycleFindings_eq_of_rearranged h, triggerFindings_eq_of_rearranged h]
  have htypes := h.blocks.flatMap_right (typeFindings r)
  have hsettings := h.blocks.flatMap_right (configFindings r)
  have hconnections := connectionFindings_perm_of_rearranged (r := r) h hd
  exact ((((htypes.append hsettings).append hconnections).append_right _).append
    (reachFindings_perm h)).append_right _

/-- A workflow has the same problems, each as often, in whatever order its blocks and its
connections are stored. -/
theorem problems_perm (w v : Workflow) (r : Registry) (hd : w.DistinctIds)
    (hb : w.blocks.Perm v.blocks) (hc : w.connections.Perm v.connections) :
    (w.problems r).Perm (v.problems r) ∧ w.isValid r = v.isValid r := by
  have hfindings := findings_perm (r := r) ⟨hb, hc⟩ hd
  exact ⟨hfindings.map _, hfindings.isEmpty_eq⟩

/-- A workflow with a cycle, a block of an unknown type and an input that too many connections
enter. -/
private def knotted : Workflow :=
  let block (id tag : String) : Block := ⟨id, tag, .origin, .empty, none⟩
  { id := "wf", name := "CI", description := ""
    blocks := [block "u" "unknown", block "b" Kind.jobLint.tag, block "a" Kind.jobBuild.tag,
      block "c" Kind.jobCheckout.tag]
    connections := [⟨"1", "a", "out", "b", "in"⟩, ⟨"2", "b", "out", "a", "in"⟩,
      ⟨"3", "a", "out", "c", "in"⟩, ⟨"4", "b", "up", "c", "in"⟩, ⟨"5", "b", "out", "c", "in"⟩] }

/-- The same blocks and connections, stored the other way round. -/
private def turned : Workflow :=
  { knotted with
    blocks := knotted.blocks.reverse
    connections := knotted.connections.reverse }

theorem problems_perm_turned : knotted.DistinctIds ∧ knotted.blocks.Perm turned.blocks ∧
    knotted.connections.Perm turned.connections ∧
    knotted.problems .builtin ≠ turned.problems .builtin ∧
    (knotted.problems .builtin).Perm (turned.problems .builtin) ∧
    knotted.isValid .builtin = turned.isValid .builtin :=
  have hd : knotted.DistinctIds := by decide +kernel
  have hb : knotted.blocks.Perm turned.blocks := (List.reverse_perm _).symm
  have hc : knotted.connections.Perm turned.connections := (List.reverse_perm _).symm
  have hne : knotted.problems .builtin ≠ turned.problems .builtin := by decide +kernel
  ⟨hd, hb, hc, hne, problems_perm knotted turned .builtin hd hb hc⟩

end Workflow

end Blockflow
