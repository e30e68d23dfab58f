import Blockflow.Proofs.Pipeline.Jobs
import Blockflow.Workflow.Editor

/-!
# Which steps are placed in jobs

Blocks are stored in a list and planned by their ids. Of several steps that are stored under one id
only the last one is placed in a job, and nothing else is left out. A workflow that has been loaded
has no two blocks of one id, so all its steps are placed; but validation takes a workflow with two
steps of one id.
-/

namespace Blockflow

open Blockflow.Graph

namespace Workflow

open StepGraph Plan

variable {w : Workflow} {r : Registry}

/-- The blocks that the planned jobs are made of. -/
def placed (w : Workflow) (r : Registry) : List Block := (w.plan r).flatMap (·.blocks)

/-- The last step that is stored under each id. -/
def lastSteps (w : Workflow) (r : Registry) : List Block := (w.stepIds r).filterMap (w.lastStep? r)

/-- Whether every step is placed in a job, and as many blocks are placed as there are steps. -/
def PlacesAll (w : Workflow) (r : Registry) : Prop :=
  (w.placed r).length = (w.steps r).length ∧ ∀ b ∈ w.steps r, b ∈ w.placed r

instance (w : Workflow) (r : Registry) : Decidable (w.PlacesAll r) :=
  inferInstanceAs (Decidable (_ ∧ ∀ b ∈ w.steps r, b ∈ w.placed r))

/-- Whether no two steps are stored under one id. -/
def DistinctSteps (w : Workflow) (r : Registry) : Prop := ((w.steps r).map (·.id)).Nodup

instance (w : Workflow) (r : Registry) : Decidable (w.DistinctSteps r) :=
  inferInstanceAs (Decidable (List.Nodup _))

theorem map_id_lastSteps (w : Workflow) (r : Registry) :
    (w.lastSteps r).map (·.id) = w.stepIds r := by
  rw [lastSteps, List.map_filterMap, List.filterMap_congr fun _ ↦ map_id_lastStep?,
    List.filterMap_some]

theorem length_lastSteps (w : Workflow) (r : Registry) :
    (w.lastSteps r).length = (w.stepIds r).length := by
  rw [← map_id_lastSteps, List.length_map]

/-- There are as many ids of steps as there are steps exactly if no two steps share one. -/
theorem length_stepIds_eq_iff : (w.stepIds r).length = (w.steps r).length ↔ w.DistinctSteps r := by
  rw [DistinctSteps, ← length_ascending_eq_iff, List.length_map, stepIds]

/-- Where no two steps share an id, the last one under each id is every one. -/
theorem DistinctSteps.lastSteps_perm (hd : w.DistinctSteps r) :
    (w.lastSteps r).Perm (w.steps r) := by
  have hnodup : (w.lastSteps r).Nodup := by
    refine .of_map (·.id) ?_
    rw [map_id_lastSteps]
    exact nodup_ascending _
  have hsub : (w.lastSteps r).Subperm (w.steps r) := by
    refine List.subperm_of_subset hnodup fun b hb ↦ ?_
    obtain ⟨id, -, hid⟩ := List.mem_filterMap.mp hb
    exact (of_lastStep?_eq_some hid).1
  refine hsub.perm_of_length_le (Nat.le_of_eq ?_)
  rw [length_lastSteps, length_stepIds_eq_iff.mpr hd]

/-- What is placed in the jobs is the last step under each id, once. -/
theorem placed_perm (ha : (ofWorkflow w r).Acyclic) : (w.placed r).Perm (w.lastSteps r) :=
  (isPlanOf_plan ha).perm.trans ((ha.orderFrom_perm (Nat.le_refl _)).filterMap _)

/-- All steps are placed exactly if no two of them share an id. -/
theorem placesAll_iff (ha : (ofWorkflow w r).Acyclic) : w.PlacesAll r ↔ w.DistinctSteps r := by
  constructor
  · intro h
    have hlength := (placed_perm ha).length_eq
    rw [h.1, length_lastSteps] at hlength
    exact length_stepIds_eq_iff.mp hlength.symm
  · intro hd
    have hperm := (placed_perm ha).trans hd.lastSteps_perm
    exact ⟨hperm.length_eq, fun _ ↦ hperm.mem_iff.mpr⟩

/-! ### Loaded workflows -/

private theorem nodup_of_checkBlocks {seen : List String} {blocks : List Block}
    (h : checkBlocks r seen blocks = .ok ()) :
    (blocks.map (·.id)).Nodup ∧ ∀ b ∈ blocks, b.id ∉ seen := by
  induction blocks generalizing seen with
  | nil => simp
  | cons b rest ih =>
    rw [checkBlocks] at h
    split at h
    · simp at h
    · split at h
      · simp at h
      · next hnew =>
        obtain ⟨hrest, hunseen⟩ := ih h
        have hb : b.id ∉ rest.map (·.id) := by
          intro hmem
          obtain ⟨c, hc, hid⟩ := List.mem_map.mp hmem
          exact hunseen c hc (hid ▸ List.mem_cons_self)
        refine ⟨List.nodup_cons.mpr ⟨hb, hrest⟩, ?_⟩
        rw [List.forall_mem_cons]
        exact ⟨fun hmem ↦ hnew (List.contains_iff_mem.mpr hmem),
          fun c hc hmem ↦ hunseen c hc (List.mem_cons_of_mem _ hmem)⟩

/-- No two blocks of a loaded workflow have the same id. -/
theorem distinctIds_of_load {j : Json} (h : load r j = .ok w) : w.DistinctIds := by
  rw [load] at h
  split at h
  · simp at h
  · next read _ =>
    cases hcheck : checkBlocks r [] read.blocks with
    | error why => simp [hcheck, Except.map] at h
    | ok done =>
      rw [hcheck, Except.map] at h
      rw [← Except.ok.inj h]
      exact (nodup_of_checkBlocks hcheck).1

/-! ### Compiled workflows -/

/-- The jobs behind a compiled text hold the last step under each id, once, and nothing else. So
they hold all steps exactly if no two steps share an id, and those of a loaded workflow do. -/
theorem placesAll_iff_of_compile (w : Workflow) (r : Registry) (p : Pipeline)
    (hp : w.compile r = .ok p) :
    (w.PlacesAll r ↔ w.DistinctSteps r) ∧ (w.placed r).Perm (w.lastSteps r) ∧
      (∀ j, load r j = .ok w → w.PlacesAll r) ∧
      ∃ d, w.document? r = some (d, p.names) ∧ d.toYaml.text? = some p.text ∧
        List.Forall₂ (Compile.Emits r) (w.plan r) d.jobs := by
  obtain ⟨hv, d, hdoc, htext⟩ := compile_eq_ok_iff.mp hp
  have ha := acyclic_of_isValid hv
  exact ⟨placesAll_iff ha, placed_perm ha,
    fun _ hload ↦ (placesAll_iff ha).mpr ((distinctIds_of_load hload).steps r),
    d, hdoc, htext, document?_emits hdoc⟩

/-- A trigger and two steps with the given ids, of which the second one comes after the trigger. -/
private def twoSteps (first second : String) : Workflow where
  id := "wf"
  name := "CI"
  description := ""
  blocks :=
    [⟨"t", Kind.triggerPush.tag, .origin, .empty, none⟩,
      ⟨first, Kind.jobCheckout.tag, .origin, .empty, none⟩,
      ⟨second, Kind.jobBuild.tag, .origin, .ofList [("command", .str "make")], none⟩]
  connections := [⟨"1", "t", "out", second, "in"⟩]

/-- That a step shares the id of a trigger does no harm. -/
theorem placesAll_twoSteps : ¬(twoSteps "t" "b").DistinctIds ∧
    ∃ p, (twoSteps "t" "b").compile .builtin = .ok p ∧ (twoSteps "t" "b").PlacesAll .builtin := by
  have hok : ((twoSteps "t" "b").compile .builtin).isOk = true := by decide +kernel
  have hsteps : (twoSteps "t" "b").DistinctSteps .builtin := by decide +kernel
  obtain ⟨p, hp⟩ := exists_compile_eq_ok hok
  exact ⟨by decide +kernel, p, hp,
    (placesAll_iff_of_compile (twoSteps "t" "b") .builtin p hp).1.mpr hsteps⟩

/-- Of two steps that share an id one is left out, and validation finds nothing wrong. -/
theorem not_placesAll_twoSteps : (twoSteps "b" "b").isValid .builtin = true ∧
    ∃ p, (twoSteps "b" "b").compile .builtin = .ok p ∧
      ¬(twoSteps "b" "b").PlacesAll .builtin := by
  have hok : ((twoSteps "b" "b").compile .builtin).isOk = true := by decide +kernel
  have hlost : ¬(twoSteps "b" "b").PlacesAll .builtin := by decide +kernel
  obtain ⟨p, hp⟩ := exists_compile_eq_ok hok
  exact ⟨(compile_eq_ok_iff.mp hp).1, p, hp, hlost⟩

end Workflow

end Blockflow
