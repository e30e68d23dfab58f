import Blockflow.Block.Catalog
import Blockflow.Proofs.Pipeline.Document
import Blockflow.Proofs.Pipeline.Plan

/-!
# Jobs and what they need

The jobs of a workflow without problems divide its steps among them, lead from every step to the
ones behind it, need nothing that this does not ask for, and come in an order in which they can be
run.
-/

namespace Blockflow

open Relation Blockflow.Graph

namespace Plan

/-- One job is needed by another one, both given by their keys. -/
def Needed (jobs : List PlannedJob) (key other : String) : Prop :=
  ∃ j ∈ jobs, j.key = other ∧ key ∈ j.needs

namespace IsPlanOf

variable {g : StepGraph} {r : Registry} {done : List Block} {jobs : List PlannedJob}
variable {j : PlannedJob} {u v : Block}

theorem nodup (h : IsPlanOf g r done jobs) : jobs.Nodup := .of_map _ h.keys

/-- What comes right before a block is in its job before it, or in an earlier job that it needs. -/
theorem exists_job_of_joins (h : IsPlanOf g r done jobs) (hd : (done.map (·.id)).Nodup)
    (hu : u ∈ done) (hv : v ∈ done) (huv : Joins g.edges u.id v.id) :
    ∃ i ∈ jobs, ∃ j ∈ jobs, u ∈ i.blocks ∧ v ∈ j.blocks ∧
      (i = j ∧ [u, v].Sublist j.blocks ∨ i ≠ j ∧ i.key ∈ j.needs) := by
  obtain ⟨j, hj, hvj⟩ := h.exists_job hv
  rcases h.follows j hj v hvj with rfl | ⟨p, hp, hjoined, hsub⟩
  · obtain ⟨earlier, later, rfl⟩ := List.append_of_mem hj
    have hopened := h.openedAfter earlier j later rfl
    obtain ⟨i, hi, u', hu', hid⟩ := hopened.placed u.id huv
    have hi' : i ∈ earlier ++ j :: later := List.mem_append_left _ hi
    have heq : u' = u := List.inj_on_of_nodup_map hd (h.mem_done hi' hu') hu hid
    have hne : i ≠ j := by
      have hdisj := (List.nodup_append.mp h.nodup).2.2
      exact hdisj i hi j List.mem_cons_self
    exact ⟨i, hi', j, hj, heq ▸ hu', hvj,
      .inr ⟨hne, (hopened.needs _).mpr ⟨i, hi, rfl, u', hu', hid ▸ huv⟩⟩⟩
  · have hpu : u.id = p.id := (joins_of_joined? hjoined _).mp huv
    have heq : u = p := List.inj_on_of_nodup_map hd hu (h.mem_done hj hp) hpu
    exact ⟨j, hj, j, hj, heq ▸ hp, hvj, .inl ⟨rfl, heq ▸ hsub⟩⟩

/-- What a job needs are the other jobs that hold something right before one of its blocks. -/
theorem mem_needs_iff (h : IsPlanOf g r done jobs) (hd : (done.map (·.id)).Nodup) (hj : j ∈ jobs)
    (key : String) : key ∈ j.needs ↔ ∃ i ∈ jobs, i ≠ j ∧ i.key = key ∧
      ∃ u ∈ i.blocks, ∃ v ∈ j.blocks, Joins g.edges u.id v.id := by
  constructor
  · intro hkey
    obtain ⟨earlier, later, rfl⟩ := List.append_of_mem hj
    obtain ⟨i, hi, rfl, u, hu, huj⟩ := ((h.openedAfter earlier j later rfl).needs key).mp hkey
    have hdisj := (List.nodup_append.mp h.nodup).2.2
    exact ⟨i, List.mem_append_left _ hi, hdisj i hi j List.mem_cons_self, rfl, u, hu, j.opener,
      h.opener j hj, huj⟩
  · rintro ⟨i, hi, hne, rfl, u, hu, v, hv, huv⟩
    obtain ⟨i', hi', j', hj', hu', hv', hcase⟩ :=
      h.exists_job_of_joins hd (h.mem_done hi hu) (h.mem_done hj hv) huv
    have hii : i' = i := h.eq_of_holds hd hi' hi (PlannedJob.holds_iff.mpr ⟨u, hu', rfl⟩)
      (PlannedJob.holds_iff.mpr ⟨u, hu, rfl⟩)
    have hjj : j' = j := h.eq_of_holds hd hj' hj (PlannedJob.holds_iff.mpr ⟨v, hv', rfl⟩)
      (PlannedJob.holds_iff.mpr ⟨v, hv, rfl⟩)
    subst hii hjj
    rcases hcase with ⟨heq, -⟩ | ⟨-, hkey⟩
    · exact absurd heq hne
    · exact hkey

/-- A job comes after the jobs that it needs. -/
theorem exists_earlier (h : IsPlanOf g r done jobs) {earlier later : List PlannedJob}
    (hsplit : jobs = earlier ++ j :: later) {key : String} (hkey : key ∈ j.needs) :
    ∃ i ∈ earlier, i.key = key := by
  obtain ⟨i, hi, hk, -⟩ := ((h.openedAfter earlier j later hsplit).needs key).mp hkey
  exact ⟨i, hi, hk⟩

private theorem idxOf_lt_of_needed (h : IsPlanOf g r done jobs) {key other : String}
    (hn : Needed jobs key other) :
    (jobs.map (·.key)).idxOf key < (jobs.map (·.key)).idxOf other := by
  obtain ⟨j, hj, rfl, hkey⟩ := hn
  obtain ⟨earlier, later, hsplit⟩ := List.append_of_mem hj
  obtain ⟨i, hi, rfl⟩ := h.exists_earlier hsplit hkey
  have hkeys := h.keys
  rw [hsplit, List.map_append, List.map_cons] at hkeys ⊢
  have hmem : i.key ∈ earlier.map (·.key) := List.mem_map_of_mem hi
  have hnot : j.key ∉ earlier.map (·.key) := fun hj' ↦
    (List.nodup_append.mp hkeys).2.2 _ hj' _ List.mem_cons_self rfl
  rw [List.idxOf_append_of_mem hmem, List.idxOf_append_of_notMem hnot]
  have hlt := List.idxOf_lt_length_of_mem hmem
  omega

/-- No job needs itself, directly or through others. -/
theorem acyclic (h : IsPlanOf g r done jobs) (key : String) : ¬TransGen (Needed jobs) key key := by
  -- along a chain of needs the place in the list of jobs goes up
  have hlt : ∀ other, TransGen (Needed jobs) key other →
      (jobs.map (·.key)).idxOf key < (jobs.map (·.key)).idxOf other := by
    intro other hother
    induction hother with
    | single hn => exact h.idxOf_lt_of_needed hn
    | tail _ hn ih => exact ih.trans (h.idxOf_lt_of_needed hn)
  exact fun hcycle ↦ Nat.lt_irrefl _ (hlt key hcycle)

end IsPlanOf

/-- Two steps with a connection from the first to the second. -/
def Connected (w : Workflow) (u v : Block) : Prop :=
  ∃ c ∈ w.connections, c.source = u.id ∧ c.target = v.id

/-- What the jobs of a workflow promise to the one who runs them. -/
structure Runnable (w : Workflow) (r : Registry) (jobs : List PlannedJob) : Prop where
  /-- The steps are divided among the jobs, each standing in one job, once; triggers in none. -/
  steps : (jobs.flatMap (·.blocks)).Perm (w.steps r)
  /-- No two jobs share a key. -/
  keys : (jobs.map (·.key)).Nodup
  /-- A connection leads on within one job, or to a job that needs the one it comes from. -/
  forward : ∀ u ∈ w.steps r, ∀ v ∈ w.steps r, Connected w u v →
    ∃ i ∈ jobs, ∃ j ∈ jobs, u ∈ i.blocks ∧ v ∈ j.blocks ∧
      (i = j ∧ [u, v].Sublist j.blocks ∨ i ≠ j ∧ i.key ∈ j.needs)
  /-- A job needs exactly the other jobs from which a connection leads to it. -/
  needs : ∀ j ∈ jobs, ∀ key, key ∈ j.needs ↔
    ∃ i ∈ jobs, i ≠ j ∧ i.key = key ∧ ∃ u ∈ i.blocks, ∃ v ∈ j.blocks, Connected w u v
  /-- A job comes after the jobs that it needs. -/
  earlier : ∀ earlier j later, jobs = earlier ++ j :: later →
    ∀ key ∈ j.needs, ∃ i ∈ earlier, i.key = key
  /-- No job needs itself, directly or through others. -/
  acyclic : ∀ key, ¬TransGen (Needed jobs) key key

end Plan

namespace Workflow

open Plan

variable {w : Workflow} {r : Registry}

/-- The plan of a workflow is a plan of its ordered steps. -/
theorem isPlanOf_plan (ha : (StepGraph.ofWorkflow w r).Acyclic) :
    IsPlanOf (StepGraph.ofWorkflow w r) r (w.orderedSteps r) (w.plan r) :=
  isPlanOf_ofOrder (nodup_map_id_orderedSteps ha)
    fun _ _ _ hsplit _ hp ↦ mem_of_orderedSteps_eq ha hsplit hp

/-- Jobs whose openers have the same id are the same job. -/
theorem eq_of_opener_id_eq (ha : (StepGraph.ofWorkflow w r).Acyclic) {i j : PlannedJob}
    (hi : i ∈ w.plan r) (hj : j ∈ w.plan r) (h : i.opener.id = j.opener.id) : i = j := by
  have hplan := isPlanOf_plan ha
  have hih : i.holds i.opener.id = true := PlannedJob.holds_iff.mpr ⟨_, hplan.opener i hi, rfl⟩
  have hjh : j.holds i.opener.id = true := PlannedJob.holds_iff.mpr ⟨_, hplan.opener j hj, h.symm⟩
  exact hplan.eq_of_holds (nodup_map_id_orderedSteps ha) hi hj hih hjh

private theorem joins_iff_connected {u v : Block} (hu : u ∈ w.steps r) (hv : v ∈ w.steps r) :
    Joins (StepGraph.ofWorkflow w r).edges u.id v.id ↔ Connected w u v := by
  rw [joins_ofWorkflow]
  exact ⟨fun h ↦ h.2.2, fun h ↦ ⟨mem_stepIds.mpr ⟨u, hu, rfl⟩, mem_stepIds.mpr ⟨v, hv, rfl⟩, h⟩⟩

private theorem runnable_plan (hd : w.DistinctIds)
    (ha : (StepGraph.ofWorkflow w r).Acyclic) : Runnable w r (w.plan r) := by
  have hplan := isPlanOf_plan ha
  have hperm := orderedSteps_perm hd ha
  have hids : ((w.orderedSteps r).map (·.id)).Nodup := nodup_map_id_orderedSteps ha
  have hstep {j : PlannedJob} (hj : j ∈ w.plan r) {b : Block} (hb : b ∈ j.blocks) :
      b ∈ w.steps r := hperm.mem_iff.mp (hplan.mem_done hj hb)
  refine ⟨hplan.perm.trans hperm, hplan.keys, ?_, ?_, ?_, hplan.acyclic⟩
  · intro u hu v hv huv
    exact hplan.exists_job_of_joins hids (hperm.mem_iff.mpr hu) (hperm.mem_iff.mpr hv)
      ((joins_iff_connected hu hv).mpr huv)
  · intro j hj key
    rw [hplan.mem_needs_iff hids hj key]
    constructor
    · rintro ⟨i, hi, hne, hkey, u, hu, v, hv, huv⟩
      exact ⟨i, hi, hne, hkey, u, hu, v, hv,
        (joins_iff_connected (hstep hi hu) (hstep hj hv)).mp huv⟩
    · rintro ⟨i, hi, hne, hkey, u, hu, v, hv, huv⟩
      exact ⟨i, hi, hne, hkey, u, hu, v, hv,
        (joins_iff_connected (hstep hi hu) (hstep hj hv)).mpr huv⟩
  · exact fun _ _ _ hsplit _ hkey ↦ hplan.exists_earlier hsplit hkey

/-- The jobs of a workflow without problems hold its steps, keep the order that its connections ask
for and need nothing else, and a compiled text is that of a document with these jobs. -/
theorem runnable_of_isValid (w : Workflow) (r : Registry) (hd : w.DistinctIds)
    (hv : w.isValid r = true) :
    Runnable w r (w.plan r) ∧
      ∀ p, w.compile r = .ok p → ∃ d, w.document? r = some (d, p.names) ∧
        d.toYaml.text? = some p.text ∧ List.Forall₂ (Compile.Emits r) (w.plan r) d.jobs := by
  refine ⟨runnable_plan hd (acyclic_of_isValid hv), fun p hp ↦ ?_⟩
  obtain ⟨-, d, hdoc, htext⟩ := compile_eq_ok_iff.mp hp
  exact ⟨d, hdoc, htext, document?_emits hdoc⟩

/-- A workflow whose steps fork and come together again. -/
private def forked : Workflow :=
  let block (id : String) (kind : Kind) (config : List (String × Json)) : Block :=
    ⟨id, kind.tag, .origin, .ofList config, none⟩
  let connection (id source target : String) : Connection := ⟨id, source, "out", target, "in"⟩
  { id := "wf", name := "CI", description := ""
    blocks :=
      [block "t" .triggerPush [], block "d" .controlWait [], block "a" .jobCheckout [],
        block "b" .jobLint [("command", .str "lint")],
        block "c" .jobBuild [("command", .str "make")]]
    connections :=
      [connection "1" "t" "a", connection "2" "a" "b", connection "3" "a" "c",
        connection "4" "b" "d", connection "5" "c" "d"] }

theorem runnable_forked : forked.DistinctIds ∧ forked.isValid .builtin = true ∧
    Runnable forked .builtin (forked.plan .builtin) :=
  have hd : forked.DistinctIds := by decide +kernel
  have hv : forked.isValid .builtin = true := by decide +kernel
  ⟨hd, hv, (runnable_of_isValid forked .builtin hd hv).1⟩

end Workflow

end Blockflow
