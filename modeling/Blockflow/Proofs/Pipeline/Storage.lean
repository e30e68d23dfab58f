import Blockflow.Block.Catalog
import Blockflow.Proofs.Graph.Order
import Blockflow.Proofs.Pipeline.Blocks

/-!
# What a pipeline does not depend on

A compiled pipeline depends on the blocks of a workflow and on which steps are connected. It depends
neither on places on the canvas nor on the order in which blocks and connections are stored, nor on
ids, ports and repetitions of connections.
-/

namespace Blockflow

open Blockflow.Graph

/-! ### Places on the canvas -/

/-- The block in the corner of the canvas. -/
def Block.unplaced (b : Block) : Block := { b with position := .origin }

/-- The workflow with all blocks in the corner of the canvas. -/
def Workflow.unplaced (w : Workflow) : Workflow := { w with blocks := w.blocks.map Block.unplaced }

/-- Nothing that a document reads of a block says where it is placed. -/
theorem Block.readsAs_unplaced (b : Block) : b.unplaced.ReadsAs b where
  id := rfl
  tag := rfl
  label := rfl
  steps? := rfl
  add? _ := rfl
  condition? := rfl
  strategy? := rfl
  environment := rfl

namespace Workflow

variable (w : Workflow) (r : Registry)

theorem stepGraph_unplaced : StepGraph.ofWorkflow w.unplaced r = StepGraph.ofWorkflow w r :=
  stepGraph_mapBlocks w r (fun _ ↦ rfl) fun _ ↦ rfl

/-- The document of a workflow says nothing of places on the canvas. -/
theorem document?_unplaced : w.unplaced.document? r = w.document? r :=
  document?_mapBlocks w r Block.readsAs_unplaced

end Workflow

/-! ### The order of storage -/

namespace StepGraph

/-- Two graphs with the same ids and the same edges, in whatever order and number. -/
structure Alike (g h : StepGraph) : Prop where
  /-- The ids are the same. -/
  ids : g.ids = h.ids
  /-- The edges join the same ids. -/
  joins : ∀ a b, Joins g.edges a b ↔ Joins h.edges a b

variable {g h : StepGraph}

theorem Alike.before (hgh : g.Alike h) (id : String) : g.before id = h.before id :=
  ascending_congr fun p ↦ by simpa using hgh.joins p id

theorem Alike.after (hgh : g.Alike h) (id : String) : g.after id = h.after id :=
  ascending_congr fun s ↦ by simpa using hgh.joins id s

theorem Alike.order (hgh : g.Alike h) : g.order = h.order := by
  have hfrom : ∀ n left, g.orderFrom n left = h.orderFrom n left := by
    intro n
    induction n with
    | zero => exact fun _ ↦ rfl
    | succ n ih =>
      intro left
      simp only [orderFrom, hgh.before, ih]
  rw [StepGraph.order, StepGraph.order, hgh.ids, hfrom]

theorem Alike.ofOrder (hgh : g.Alike h) (r : Registry) (blocks : List Block) :
    Plan.ofOrder g r blocks = Plan.ofOrder h r blocks := by
  have hplace : Plan.place g r = Plan.place h r := by
    funext jobs b
    simp only [Plan.place, Plan.joined?, Plan.opened, hgh.before, hgh.after]
  rw [Plan.ofOrder, Plan.ofOrder, hplace]

end StepGraph

/-- Blocks that are sorted by their ids have ascending ids. -/
theorem Block.pairwise_mergeSort_id (l : List Block) :
    (l.mergeSort fun a b ↦ a.id ≤ b.id).Pairwise fun a b ↦ a.id ≤ b.id := by
  have hbool : (l.mergeSort fun a b ↦ a.id ≤ b.id).Pairwise
      fun a b ↦ decide (a.id ≤ b.id) = true := by
    refine List.pairwise_mergeSort (fun a b c hab hbc ↦ ?_) (fun a b ↦ ?_) l
    · simp only [decide_eq_true_eq] at hab hbc ⊢
      exact String.le_trans hab hbc
    · simpa using String.le_total a.id b.id
  simpa only [decide_eq_true_eq] using hbool

namespace Workflow

variable {w v : Workflow} {r : Registry}

/-- A connection from one step to another one, by their ids. -/
def StepEdge (w : Workflow) (r : Registry) (a b : String) : Prop :=
  a ∈ (w.steps r).map (·.id) ∧ b ∈ (w.steps r).map (·.id) ∧
    ∃ c ∈ w.connections, c.source = a ∧ c.target = b

theorem joins_iff_stepEdge {a b : String} :
    Joins (StepGraph.ofWorkflow w r).edges a b ↔ w.StepEdge r a b := by
  rw [joins_ofWorkflow]
  simp only [mem_stepIds, StepEdge, List.mem_map]

section Reordered

variable (hd : w.DistinctIds) (hb : w.blocks.Perm v.blocks)
include hb

theorem steps_perm (r : Registry) : (w.steps r).Perm (v.steps r) := hb.filter _

theorem distinctIds_of_perm : w.DistinctIds ↔ v.DistinctIds := (hb.map _).nodup_iff

theorem alike_of_perm (he : ∀ a b, w.StepEdge r a b ↔ v.StepEdge r a b) :
    (StepGraph.ofWorkflow w r).Alike (StepGraph.ofWorkflow v r) where
  ids := ascending_congr fun _ ↦ ((steps_perm hb r).map _).mem_iff
  joins a b := by rw [joins_iff_stepEdge, joins_iff_stepEdge, he]

include hd

private theorem lastStep?_eq_of_perm (id : String) : w.lastStep? r id = v.lastStep? r id := by
  apply Option.ext
  intro b
  have hd' : v.DistinctIds := (distinctIds_of_perm hb).mp hd
  rw [hd.lastStep?_eq_some, hd'.lastStep?_eq_some, (steps_perm hb r).mem_iff]

private theorem plan_eq_of_perm (he : ∀ a b, w.StepEdge r a b ↔ v.StepEdge r a b) :
    w.plan r = v.plan r := by
  have halike := alike_of_perm hb he
  have hlast : w.lastStep? r = v.lastStep? r := funext (lastStep?_eq_of_perm hd hb)
  rw [plan, plan, orderedSteps, orderedSteps, halike.order, hlast, halike.ofOrder]

private theorem sortedTriggers_eq_of_perm (r : Registry) :
    w.sortedTriggers r = v.sortedTriggers r := by
  have hperm : (w.sortedTriggers r).Perm (v.sortedTriggers r) :=
    (List.mergeSort_perm _ _).trans ((hb.filter _).trans (List.mergeSort_perm _ _).symm)
  refine hperm.eq_of_pairwise ?_ (Block.pairwise_mergeSort_id _) (Block.pairwise_mergeSort_id _)
  intro a b ha hb' hab hba
  have hblock {c : Block} (hc : c ∈ w.sortedTriggers r) : c ∈ w.blocks :=
    List.mem_of_mem_filter ((List.mergeSort_perm _ _).mem_iff.mp hc)
  exact hd.eq_of_id_eq (hblock ha) (hblock (hperm.mem_iff.mpr hb'))
    (String.le_antisymm hab hba)

private theorem document?_eq_of_perm (hn : w.name = v.name)
    (he : ∀ a b, w.StepEdge r a b ↔ v.StepEdge r a b) : w.document? r = v.document? r := by
  rw [document?, document?, events?, events?, sortedTriggers_eq_of_perm hd hb,
    plan_eq_of_perm hd hb he, hn]

end Reordered

private theorem stepEdge_unplaced {a b : String} :
    w.unplaced.StepEdge r a b ↔ w.StepEdge r a b := by
  rw [← joins_iff_stepEdge, ← joins_iff_stepEdge, stepGraph_unplaced]

private theorem distinctIds_unplaced : w.unplaced.DistinctIds ↔ w.DistinctIds := by
  simp [DistinctIds, unplaced, Block.unplaced, Function.comp_def]

/-- Two workflows of one name without problems become the same pipeline if they have the same
blocks, wherever these are placed and stored, and if the same steps are connected. -/
theorem compile_eq_of_same_steps (w v : Workflow) (r : Registry) (hd : w.DistinctIds)
    (hw : w.isValid r = true) (hv : v.isValid r = true) (hn : w.name = v.name)
    (hb : (w.blocks.map Block.unplaced).Perm (v.blocks.map Block.unplaced))
    (he : ∀ a b, w.StepEdge r a b ↔ v.StepEdge r a b) : w.compile r = v.compile r := by
  have he' : ∀ a b, w.unplaced.StepEdge r a b ↔ v.unplaced.StepEdge r a b := by
    intro a b
    rw [stepEdge_unplaced, stepEdge_unplaced, he]
  have hdoc : w.document? r = v.document? r := by
    rw [← document?_unplaced w, ← document?_unplaced v]
    -- only in the corner of the canvas are the two lists of blocks permutations of each other
    exact document?_eq_of_perm (distinctIds_unplaced.mpr hd) hb hn he'
  rw [compile, compile, if_pos hw, if_pos hv, hdoc]

/-- A workflow of blocks without settings. -/
private def bare (id description : String) (blocks : List (String × Kind × Float))
    (connections : List (String × String × String)) : Workflow :=
  { id, name := "CI", description
    blocks := blocks.map fun b ↦
      ⟨b.1, b.2.1.tag, ⟨b.2.2, 0⟩, .empty, none⟩
    connections := connections.map fun c ↦ ⟨c.1, c.2.1, "out", c.2.2, "in"⟩ }

/-- The workflow as it was drawn first. -/
private def drawn : Workflow :=
  bare "1" "" [("t", .triggerPush, 0), ("b", .jobCheckout, 0), ("x", .jobCheckout, 0),
    ("a", .controlParallel, 0), ("w", .controlWait, 0)]
    [("1", "t", "b"), ("2", "b", "x"), ("3", "b", "a"), ("4", "x", "w"), ("5", "a", "w")]

/-- The same steps, stored in another order, with another trigger edge and a connection twice. -/
private def redrawn : Workflow :=
  bare "2" "again" [("w", .controlWait, 7), ("a", .controlParallel, 1), ("x", .jobCheckout, 2),
    ("b", .jobCheckout, 3), ("t", .triggerPush, 4)]
    [("e", "a", "w"), ("d", "x", "w"), ("w", "x", "w"), ("c", "b", "a"), ("b", "b", "x"),
      ("a", "t", "b"), ("s", "t", "w")]

private theorem stepEdge_redrawn (a b : String) :
    drawn.StepEdge .builtin a b ↔ redrawn.StepEdge .builtin a b := by
  have hdrawn : (StepGraph.ofWorkflow drawn .builtin).edges =
      [("b", "x"), ("b", "a"), ("x", "w"), ("a", "w")] := by decide +kernel
  have hredrawn : (StepGraph.ofWorkflow redrawn .builtin).edges =
      [("a", "w"), ("x", "w"), ("x", "w"), ("b", "a"), ("b", "x")] := by decide +kernel
  rw [← joins_iff_stepEdge, ← joins_iff_stepEdge, hdrawn, hredrawn]
  simp only [Joins, List.mem_cons, List.not_mem_nil, or_false]
  tauto

theorem compile_redrawn : drawn.DistinctIds ∧ drawn.isValid .builtin = true ∧
    redrawn.isValid .builtin = true ∧ drawn.compile .builtin = redrawn.compile .builtin :=
  have hd : drawn.DistinctIds := by decide +kernel
  have hw : drawn.isValid .builtin = true := by decide +kernel
  have hv : redrawn.isValid .builtin = true := by decide +kernel
  have hb : (drawn.blocks.map Block.unplaced).Perm (redrawn.blocks.map Block.unplaced) := by
    decide +kernel
  ⟨hd, hw, hv, compile_eq_of_same_steps drawn redrawn .builtin hd hw hv rfl hb stepEdge_redrawn⟩

end Workflow

end Blockflow
