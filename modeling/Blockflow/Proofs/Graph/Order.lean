import Blockflow.Pipeline.Plan
import Blockflow.Proofs.Dict
import Blockflow.Proofs.Graph.Reach
import Blockflow.Workflow.Validation
import Mathlib.Data.Set.Finite.Basic
import Mathlib.Order.WellFounded

/-!
# The order of steps

Where no step comes before itself, the order of steps leaves nothing out, and whatever comes right
before a step stands before it in the order. A workflow without problems is such a case.
-/

namespace Blockflow

open Relation Blockflow.Graph

namespace StepGraph

variable {g : StepGraph} {a b id : String}

@[simp] theorem mem_before : a ∈ g.before b ↔ Joins g.edges a b := by simp [before]

@[simp] theorem mem_after : b ∈ g.after a ↔ Joins g.edges a b := by simp [after]

/-- No path of at least one edge leads from an id back to it. -/
def Acyclic (g : StepGraph) : Prop := ∀ id, ¬TransGen (Joins g.edges) id id

instance (g : StepGraph) : Decidable g.Acyclic :=
  decidable_of_iff (∀ e ∈ g.edges, Workflow.isOnCycle g.edges e.1 = false) (by
    simp only [← Bool.not_eq_true, Workflow.isOnCycle_iff]
    constructor
    · intro hc id hid
      obtain ⟨b, hb, -⟩ := TransGen.head'_iff.mp hid
      exact hc (id, b) hb hid
    · exact fun hg e _ ↦ hg e.1)

/-- Of some ids there is always one before which none of the others comes. -/
theorem Acyclic.exists_ready (hg : g.Acyclic) {left : List String} (hl : left ≠ []) :
    ∃ id ∈ left, ∀ p, Joins g.edges p id → p ∉ left := by
  let comesBefore (a b : {x // x ∈ left}) : Prop := TransGen (Joins g.edges) a b
  have : IsTrans _ comesBefore := ⟨fun _ _ _ hab hbc ↦ hab.trans hbc⟩
  have : Std.Irrefl comesBefore := ⟨fun a ↦ hg a⟩
  -- finitely many ids and no cycle among them, so one is least
  have hwf : WellFounded comesBefore := Finite.wellFounded_of_trans_of_irrefl _
  obtain ⟨first, hfirst⟩ := List.exists_mem_of_ne_nil left hl
  obtain ⟨⟨id, hid⟩, -, hmin⟩ := hwf.has_min Set.univ ⟨⟨first, hfirst⟩, trivial⟩
  exact ⟨id, hid, fun p hp hpl ↦ hmin ⟨p, hpl⟩ trivial (.single hp)⟩

private theorem orderFrom_succ (n : Nat) (left : List String) :
    g.orderFrom (n + 1) left = [] ∧
        (∀ id ∈ left, ∃ p, Joins g.edges p id ∧ p ∈ left) ∨
      ∃ id ∈ left, (∀ p, Joins g.edges p id → p ∉ left) ∧
        g.orderFrom (n + 1) left = id :: g.orderFrom n (left.erase id) := by
  rw [orderFrom]
  split
  · next hnone =>
    refine .inl ⟨rfl, fun id hid ↦ ?_⟩
    simpa using List.find?_eq_none.mp hnone id hid
  · next id hsome =>
    refine .inr ⟨id, List.mem_of_find?_eq_some hsome, fun p hp ↦ ?_, rfl⟩
    have hall := List.find?_some hsome
    rw [List.all_eq_true] at hall
    simpa using hall p (mem_before.mpr hp)

/-- Nothing is left out of the order. -/
theorem Acyclic.orderFrom_perm (hg : g.Acyclic) {n : Nat} {left : List String}
    (hn : left.length ≤ n) : (g.orderFrom n left).Perm left := by
  induction n generalizing left with
  | zero =>
    rw [List.eq_nil_of_length_eq_zero (Nat.le_zero.mp hn)]
    exact .refl _
  | succ n ih =>
    rcases orderFrom_succ (g := g) n left with ⟨hnil, hstuck⟩ | ⟨id, hid, -, hcons⟩
    · by_cases hl : left = []
      · rw [hnil, hl]
      · obtain ⟨id, hid, hready⟩ := hg.exists_ready hl
        obtain ⟨p, hp, hpl⟩ := hstuck id hid
        exact absurd hpl (hready p hp)
    · have hlen : (left.erase id).length ≤ n := by
        rw [List.length_erase_of_mem hid]
        omega
      rw [hcons]
      exact ((ih hlen).cons id).trans (List.perm_cons_erase hid).symm

/-- What comes right before an id and is still left stands before it in the order. -/
theorem mem_of_orderFrom_eq {n : Nat} {left pre post : List String} {p : String}
    (h : g.orderFrom n left = pre ++ id :: post) (hp : Joins g.edges p id) (hl : p ∈ left) :
    p ∈ pre := by
  induction n generalizing left pre with
  | zero => simp [orderFrom] at h
  | succ n ih =>
    rcases orderFrom_succ (g := g) n left with ⟨hnil, -⟩ | ⟨first, -, hready, hcons⟩
    · simp [hnil] at h
    · rw [hcons] at h
      cases pre with
      | nil =>
        obtain ⟨rfl, -⟩ := List.cons.inj h
        exact absurd hl (hready p hp)
      | cons q pre =>
        obtain ⟨rfl, htail⟩ := List.cons.inj h
        by_cases hpf : p = first
        · exact hpf ▸ List.mem_cons_self
        · exact List.mem_cons_of_mem _ (ih htail ((List.mem_erase_of_ne hpf).mpr hl))

end StepGraph

namespace Workflow

open StepGraph

variable {w : Workflow} {r : Registry} {a b id : String}

@[simp] theorem mem_stepIds : id ∈ w.stepIds r ↔ ∃ b ∈ w.steps r, b.id = id := by
  simp [stepIds]

/-- The edges of the graph of steps are the connections between steps. -/
theorem joins_ofWorkflow : Joins (ofWorkflow w r).edges a b ↔
    a ∈ w.stepIds r ∧ b ∈ w.stepIds r ∧ ∃ c ∈ w.connections, c.source = a ∧ c.target = b := by
  simp only [Joins, ofWorkflow, edgesAmong, List.mem_map, List.mem_filter, Bool.and_eq_true,
    List.contains_iff_mem, Prod.mk.injEq]
  constructor
  · rintro ⟨c, ⟨hc, hs, ht⟩, rfl, rfl⟩
    exact ⟨hs, ht, c, hc, rfl, rfl⟩
  · rintro ⟨ha, hb, c, hc, rfl, rfl⟩
    exact ⟨c, ⟨hc, ha, hb⟩, rfl, rfl⟩

/-- No step of a workflow without problems comes before itself. -/
theorem acyclic_of_isValid (h : w.isValid r = true) : (ofWorkflow w r).Acyclic := by
  intro id hid
  have hmem : id ∈ w.stepIds r := by
    obtain ⟨b, hb, -⟩ := TransGen.head'_iff.mp hid
    exact (joins_ofWorkflow.mp hb).1
  have hnone : Validation.cycleFindings w r = [] := by
    simp only [isValid, findings, List.isEmpty_iff, List.append_eq_nil_iff] at h
    exact h.1.1.2
  rw [Validation.cycleFindings, List.map_eq_nil_iff, List.filter_eq_nil_iff] at hnone
  exact hnone id hmem (isOnCycle_iff.mpr hid)

/-! ### Steps in order -/

/-- No two blocks of a workflow have the same id. -/
def DistinctIds (w : Workflow) : Prop := (w.blocks.map (·.id)).Nodup

instance : Decidable w.DistinctIds := inferInstanceAs (Decidable (List.Nodup _))

theorem DistinctIds.steps (hd : w.DistinctIds) (r : Registry) :
    ((w.steps r).map (·.id)).Nodup :=
  hd.sublist (List.filter_sublist.map _)

/-- Blocks that share their id are the same block. -/
theorem DistinctIds.eq_of_id_eq (hd : w.DistinctIds) {b c : Block} (hb : b ∈ w.blocks)
    (hc : c ∈ w.blocks) (h : b.id = c.id) : b = c :=
  List.inj_on_of_nodup_map hd hb hc h

theorem mem_steps {b : Block} : b ∈ w.steps r ↔ b ∈ w.blocks ∧ isTrigger r b = false := by
  simp [steps]

theorem of_lastStep?_eq_some {b : Block} (h : w.lastStep? r id = some b) :
    b ∈ w.steps r ∧ b.id = id :=
  ⟨List.mem_reverse.mp (List.mem_of_find?_eq_some h), by simpa using List.find?_some h⟩

theorem exists_lastStep? (h : id ∈ w.stepIds r) : ∃ b, w.lastStep? r id = some b := by
  obtain ⟨b, hb, rfl⟩ := mem_stepIds.mp h
  exact Option.isSome_iff_exists.mp
    (List.find?_isSome.mpr ⟨b, List.mem_reverse.mpr hb, beq_self_eq_true _⟩)

theorem DistinctIds.lastStep?_eq_some (hd : w.DistinctIds) {b : Block} :
    w.lastStep? r id = some b ↔ b ∈ w.steps r ∧ b.id = id := by
  refine ⟨of_lastStep?_eq_some, ?_⟩
  rintro ⟨hb, rfl⟩
  obtain ⟨c, hlast⟩ := exists_lastStep? (mem_stepIds.mpr ⟨b, hb, rfl⟩)
  obtain ⟨hc, hid⟩ := of_lastStep?_eq_some hlast
  rw [hlast, hd.eq_of_id_eq (mem_steps.mp hc).1 (mem_steps.mp hb).1 hid]

theorem map_id_lastStep? (h : id ∈ w.stepIds r) : (w.lastStep? r id).map (·.id) = some id := by
  obtain ⟨b, hb⟩ := exists_lastStep? h
  rw [hb, Option.map_some, (of_lastStep?_eq_some hb).2]

/-- Putting the steps in order is putting their ids in order. -/
theorem map_id_orderedSteps (ha : (ofWorkflow w r).Acyclic) :
    (w.orderedSteps r).map (·.id) = (ofWorkflow w r).order := by
  have hsome : ∀ id ∈ (ofWorkflow w r).order, (w.lastStep? r id).map (·.id) = some id :=
    fun id hid ↦ map_id_lastStep? ((ha.orderFrom_perm (Nat.le_refl _)).mem_iff.mp hid)
  rw [orderedSteps, List.map_filterMap, List.filterMap_congr hsome, List.filterMap_some]

/-- No two ordered steps have the same id. -/
theorem nodup_map_id_orderedSteps (ha : (ofWorkflow w r).Acyclic) :
    ((w.orderedSteps r).map (·.id)).Nodup := by
  rw [map_id_orderedSteps ha]
  exact (ha.orderFrom_perm (Nat.le_refl _)).nodup_iff.mpr (nodup_ascending _)

/-- The ordered steps are those that are the last ones with their ids. -/
theorem mem_orderedSteps (ha : (ofWorkflow w r).Acyclic) {b : Block} :
    b ∈ w.orderedSteps r ↔ w.lastStep? r b.id = some b := by
  rw [orderedSteps, List.mem_filterMap]
  constructor
  · rintro ⟨id, -, h⟩
    rwa [(of_lastStep?_eq_some h).2]
  · intro h
    have hid : b.id ∈ w.stepIds r := mem_stepIds.mpr ⟨b, (of_lastStep?_eq_some h).1, rfl⟩
    exact ⟨b.id, (ha.orderFrom_perm (Nat.le_refl _)).mem_iff.mpr hid, h⟩

/-- The ordered steps are the steps, each once. -/
theorem orderedSteps_perm (hd : w.DistinctIds) (ha : (ofWorkflow w r).Acyclic) :
    (w.orderedSteps r).Perm (w.steps r) := by
  refine (List.perm_ext_iff_of_nodup (.of_map _ (nodup_map_id_orderedSteps ha))
    (.of_map _ (hd.steps r))).mpr fun b ↦ ?_
  rw [mem_orderedSteps ha, hd.lastStep?_eq_some, and_iff_left rfl]

/-- Whatever comes right before a step stands before it in the order. -/
theorem mem_of_orderedSteps_eq (ha : (ofWorkflow w r).Acyclic)
    {pre post : List Block} {b : Block} {p : String} (h : w.orderedSteps r = pre ++ b :: post)
    (hp : Joins (ofWorkflow w r).edges p b.id) : p ∈ pre.map (·.id) := by
  have horder : (ofWorkflow w r).order = pre.map (·.id) ++ b.id :: post.map (·.id) := by
    rw [← map_id_orderedSteps ha, h, List.map_append, List.map_cons]
  exact mem_of_orderFrom_eq horder hp (joins_ofWorkflow.mp hp).1

end Workflow

end Blockflow
