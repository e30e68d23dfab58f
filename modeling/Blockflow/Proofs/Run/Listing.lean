import Blockflow.Proofs.Run.Polling
import Blockflow.Proofs.Timestamp
import Mathlib.Data.List.Forall2

/-!
# The order of a listing

The remote side lists the jobs of a run, and the steps of a job, in an order of its own. This order
decides which of several logs a block is linked to and nothing else: where a run and its blocks
stand, and when they have started and ended, depends only on what is listed.
-/

namespace Blockflow

/-! ### Reordered listings -/

/-- Whether two jobs differ by nothing but the order of their steps. -/
structure RemoteJob.Reordered (j k : RemoteJob) : Prop where
  /-- The second one lists the steps of the first one. -/
  steps : j.steps.Perm k.steps
  /-- Everything else is the same. -/
  rest : { j with steps := k.steps } = k

/-- Whether two snapshots differ by nothing but the order of the jobs, and of the steps within
jobs. -/
structure RunSnapshot.Reordered (s t : RunSnapshot) : Prop where
  /-- The second one lists the jobs of the first one, whose steps may stand in another order. -/
  jobs : ∃ jobs, s.jobs.Perm jobs ∧ List.Forall₂ RemoteJob.Reordered jobs t.jobs
  /-- Everything else is the same. -/
  rest : { s with jobs := t.jobs } = t

namespace RemoteJob.Reordered

variable {j k : RemoteJob}

theorem hasStarted_eq (h : j.Reordered k) : j.hasStarted = k.hasStarted := by
  rw [← h.rest, hasStarted, hasStarted, h.steps.any_eq]

theorem completedAt_eq (h : j.Reordered k) : j.completedAt = k.completedAt := by rw [← h.rest]

end RemoteJob.Reordered

namespace RunSnapshot

variable {s t : RunSnapshot} {names : NameMap} {block : String}

/-- What is true of a job in whatever order its steps stand is true of some job of a snapshot in
whatever order its jobs stand. -/
theorem Reordered.exists_iff (h : s.Reordered t) {p : RemoteJob → Prop}
    (hp : ∀ j k, j.Reordered k → (p j ↔ p k)) : (∃ j ∈ s.jobs, p j) ↔ ∃ j ∈ t.jobs, p j := by
  obtain ⟨jobs, hperm, hjobs⟩ := h.jobs
  simp only [hperm.mem_iff]
  clear hperm
  generalize t.jobs = relisted at hjobs
  induction hjobs with
  | nil => rfl
  | cons hjk _ ih => rw [List.exists_mem_cons_iff, List.exists_mem_cons_iff, hp _ _ hjk, ih]

/-- Reordered snapshots say the same of a block. -/
theorem Reordered.mem_about_iff (h : s.Reordered t) (o : Observation) :
    o ∈ s.about names block ↔ o ∈ t.about names block := by
  rw [mem_about, mem_about]
  refine h.exists_iff fun j k hjk ↦ ?_
  simp only [hjk.steps.mem_iff]
  rw [← hjk.rest]
  rfl

theorem Reordered.run_eq (h : s.Reordered t) : s.run = t.run := by rw [← h.rest]

theorem Reordered.status_eq (h : s.Reordered t) : s.status = t.status := by rw [← h.rest]

theorem Reordered.runStatus_eq (h : s.Reordered t) : s.runStatus = t.runStatus := by
  have hstarted : s.hasStarted = t.hasStarted := by
    rw [Bool.eq_iff_iff, hasStarted, hasStarted, List.any_eq_true, List.any_eq_true]
    exact h.exists_iff fun j k hjk ↦ by rw [hjk.hasStarted_eq]
  have hconclusion : s.conclusion = t.conclusion := by rw [← h.rest]
  rw [runStatus, runStatus, h.status_eq, hconclusion, hstarted]

theorem Reordered.endedAt_eq (h : s.Reordered t) (startedAt : Timestamp) :
    s.endedAt startedAt = t.endedAt startedAt := by
  rw [endedAt, endedAt, Timestamp.latest?_congr fun time ↦ ?_]
  rw [List.mem_filterMap, List.mem_filterMap]
  exact h.exists_iff fun j k hjk ↦ by rw [hjk.completedAt_eq]

end RunSnapshot

/-! ### Everything but the logs -/

namespace BlockState

variable {a b : BlockState} {all more : List Observation}

/-- The state of a block without the link to its log. -/
def unlinked (s : BlockState) : BlockState := { s with log := none }

/-- Only what is said of a block counts, neither the order nor how often, and the log that the block
has been linked to before counts for nothing else. -/
theorem unlinked_observe_congr (hab : a.unlinked = b.unlinked) (h : ∀ o, o ∈ all ↔ o ∈ more) :
    (a.observe all).unlinked = (b.observe more).unlinked := by
  have hempty : all.isEmpty = more.isEmpty := by
    rw [Bool.eq_iff_iff, List.isEmpty_iff, List.isEmpty_iff, List.eq_nil_iff_forall_not_mem,
      List.eq_nil_iff_forall_not_mem]
    simp only [h]
  have hstatus : Observation.aggregate all = Observation.aggregate more :=
    Observation.aggregate_congr fun t ↦ by simp only [h]
  have hstart : Timestamp.earliest? (all.filterMap (·.startedAt)) =
      Timestamp.earliest? (more.filterMap (·.startedAt)) :=
    Timestamp.earliest?_congr fun time ↦ by simp only [List.mem_filterMap, h]
  have hend : Timestamp.latest? (all.filterMap (·.finishedAt)) =
      Timestamp.latest? (more.filterMap (·.finishedAt)) :=
    Timestamp.latest?_congr fun time ↦ by simp only [List.mem_filterMap, h]
  obtain ⟨block, status, startedAt, finishedAt, log⟩ := a
  obtain ⟨block', status', startedAt', finishedAt', log'⟩ := b
  obtain ⟨rfl, rfl, rfl, rfl, -⟩ := BlockState.mk.inj hab
  simp only [observe, hempty, hstatus, hstart, hend]
  split <;> rfl

theorem unlinked_settle_congr (hab : a.unlinked = b.unlinked) (run : RunStatus) :
    (a.settle run).unlinked = (b.settle run).unlinked := by
  have hsettle (s : BlockState) : (s.settle run).unlinked = s.unlinked.settle run := by
    rw [settle_eq, settle_eq]
    rfl
  rw [hsettle, hab, hsettle]

end BlockState

/-- Reordered snapshots move a block in the same way, but for its log. -/
theorem RunSnapshot.Reordered.unlinked_moveState {s t : RunSnapshot} (h : s.Reordered t)
    {names : NameMap} {block : String} {a b : BlockState} (hab : a.unlinked = b.unlinked) :
    (s.moveState names block a).unlinked = (t.moveState names block b).unlinked := by
  have hobserve : (a.observe (s.about names block)).unlinked =
      (b.observe (t.about names block)).unlinked :=
    BlockState.unlinked_observe_congr hab h.mem_about_iff
  rw [moveState, moveState, h.status_eq, h.runStatus_eq]
  split
  · exact BlockState.unlinked_settle_congr hobserve _
  · exact hobserve

namespace Execution

variable {e f : Execution} {s t : RunSnapshot} {names : NameMap} {blocks relisted : Dict BlockState}

/-- Blocks without the links to their logs. -/
def unlinkedBlocks (blocks : Dict BlockState) : Dict BlockState :=
  blocks.mapEntries fun _ b ↦ b.unlinked

/-- An execution without the links to the logs of its blocks. -/
def unlinked (e : Execution) : Execution := { e with blocks := unlinkedBlocks e.blocks }

/-- What changes blocks in the same way but for their logs does so to all blocks. -/
private theorem unlinkedBlocks_mapEntries_congr {move move' : String → BlockState → BlockState}
    (hb : unlinkedBlocks blocks = unlinkedBlocks relisted)
    (hmove : ∀ block a b, a.unlinked = b.unlinked →
      (move block a).unlinked = (move' block b).unlinked) :
    unlinkedBlocks (blocks.mapEntries move) = unlinkedBlocks (relisted.mapEntries move') := by
  have hfirst : unlinkedBlocks (blocks.mapEntries move) =
      (unlinkedBlocks blocks).mapEntries fun block b ↦ (move block b).unlinked := by
    rw [unlinkedBlocks, unlinkedBlocks, Dict.mapEntries_mapEntries, Dict.mapEntries_mapEntries]
    congr 1
    funext block a
    exact (hmove block a a rfl).trans (hmove block a.unlinked a rfl).symm
  have hsecond : unlinkedBlocks (relisted.mapEntries move') =
      (unlinkedBlocks relisted).mapEntries fun block b ↦ (move block b).unlinked := by
    rw [unlinkedBlocks, unlinkedBlocks, Dict.mapEntries_mapEntries, Dict.mapEntries_mapEntries]
    congr 1
    funext block b
    exact (hmove block b.unlinked b rfl).symm
  rw [hfirst, hb, hsecond]

/-- Where a run stands does not depend on the logs of its blocks. -/
private theorem nextStatus_congr (he : e.status = f.status) (hs : s.runStatus = t.runStatus)
    (hb : unlinkedBlocks blocks = unlinkedBlocks relisted) :
    e.nextStatus s blocks = f.nextStatus t relisted := by
  have hany (blocks : Dict BlockState) : blocks.values.any (·.status ≠ .pending) =
      (unlinkedBlocks blocks).values.any (·.status ≠ .pending) := by
    simp [unlinkedBlocks, BlockState.unlinked, Dict.values, Dict.mapEntries, Function.comp_def]
  rw [nextStatus, nextStatus, he, hs, hany, hb, ← hany]

/-- Reordered snapshots move an execution on in the same way, but for the logs. -/
private theorem unlinked_advance_congr (he : e.unlinked = f.unlinked) (h : s.Reordered t) :
    (e.advance s names).unlinked = (f.advance t names).unlinked := by
  have hblocks : unlinkedBlocks e.blocks = unlinkedBlocks f.blocks := congrArg (·.blocks) he
  have hobserved : unlinkedBlocks (e.observed (Observation.ofSnapshot names s)) =
      unlinkedBlocks (f.observed (Observation.ofSnapshot names t)) :=
    unlinkedBlocks_mapEntries_congr hblocks fun _ _ _ hab ↦
      BlockState.unlinked_observe_congr hab h.mem_about_iff
  have hmoved : unlinkedBlocks (e.blocks.mapEntries (s.moveState names)) =
      unlinkedBlocks (f.blocks.mapEntries (t.moveState names)) :=
    unlinkedBlocks_mapEntries_congr hblocks fun _ _ _ hab ↦ h.unlinked_moveState hab
  have hstatus : e.nextStatus s (e.observed (Observation.ofSnapshot names s)) =
      f.nextStatus t (f.observed (Observation.ofSnapshot names t)) :=
    nextStatus_congr (congrArg (·.status) he) h.runStatus_eq hobserved
  have hadvance (e : Execution) (s : RunSnapshot) : (e.advance s names).unlinked =
      { e.unlinked with
        status := e.nextStatus s (e.observed (Observation.ofSnapshot names s))
        finishedAt :=
          if s.status = .completed then some (s.endedAt e.unlinked.startedAt)
          else e.unlinked.finishedAt
        blocks := unlinkedBlocks (e.blocks.mapEntries (s.moveState names)) } := rfl
  rw [hadvance, hadvance, he, hstatus, hmoved, h.status_eq, h.endedAt_eq]

/-- Executions that differ in nothing but the logs still do so after snapshots that differ in
nothing but their order. -/
theorem unlinked_reduce_congr (he : e.unlinked = f.unlinked) (h : s.Reordered t) :
    (e.reduce s names).unlinked = (f.reduce t names).unlinked := by
  have hrun : e.run = f.run := congrArg (·.run) he
  have hend : e.isTerminal = f.isTerminal := congrArg (·.isTerminal) he
  by_cases hr : s.run = e.run
  · have hr' : t.run = f.run := by rw [← h.run_eq, hr, hrun]
    cases ha : e.isTerminal with
    | true => rw [reduce_of_isTerminal ha, reduce_of_isTerminal (hend ▸ ha), he]
    | false =>
      rw [reduce_eq_advance ha hr, reduce_eq_advance (hend ▸ ha) hr', unlinked_advance_congr he h]
  · have hr' : t.run ≠ f.run := by rwa [← h.run_eq, ← hrun]
    rw [reduce_of_run_ne hr, reduce_of_run_ne hr', he]

/-- In whatever order the remote side lists jobs and steps, a snapshot does the same to an
execution, but for the logs that its blocks are linked to. -/
theorem reduce_of_reordered (e : Execution) (s t : RunSnapshot) (names : NameMap)
    (h : s.Reordered t) : (e.reduce s names).unlinked = (e.reduce t names).unlinked :=
  unlinked_reduce_congr rfl h

/-- A job that goes on, with a log of its own. -/
private def listedJob (name : String) (steps : List RemoteStep) : RemoteJob where
  name := name
  status := .inProgress
  conclusion := none
  startedAt := none
  completedAt := none
  link := some ("logs/" ++ name)
  steps := steps

/-- A step that has succeeded, from one second of a day to another. -/
private def listedStep (name : String) (start finish : Nat) : RemoteStep :=
  ⟨name, .completed, some .success, some ⟨19723, start, 0⟩, some ⟨19723, finish, 0⟩⟩

/-- A block that has run in two jobs. -/
private def listing : RunSnapshot :=
  ⟨42, .inProgress, none,
    [listedJob "x" [listedStep "a" 5 20, listedStep "b" 20 30],
      listedJob "y" [listedStep "a" 3 10]]⟩

/-- The same, the other way round. -/
private def relisting : RunSnapshot :=
  ⟨42, .inProgress, none,
    [listedJob "y" [listedStep "a" 3 10],
      listedJob "x" [listedStep "b" 20 30, listedStep "a" 5 20]]⟩

/-- The execution of two blocks that follows it. -/
private def listedRun : Execution where
  id := "e"
  workflow := "wf"
  run := 42
  status := .pending
  startedAt := ⟨19723, 0, 0⟩
  finishedAt := none
  blocks := .ofList [("a", .pending "a"), ("b", .pending "b")]

/-- The names of their steps. -/
private def listedNames : NameMap := (NameMap.empty.insertStep "a" "a").insertStep "b" "b"

theorem reduce_listing : listing.Reordered relisting ∧
    (listedRun.reduce listing listedNames).unlinked =
      (listedRun.reduce relisting listedNames).unlinked ∧
    listedRun.reduce listing listedNames ≠ listedRun.reduce relisting listedNames :=
  have h : listing.Reordered relisting :=
    ⟨⟨_, .swap _ _ _, .cons ⟨.refl _, rfl⟩ (.cons ⟨.swap _ _ _, rfl⟩ .nil)⟩, rfl⟩
  ⟨h, reduce_of_reordered listedRun listing relisting listedNames h, by decide +kernel⟩

/-- Whoever follows a run finds the same, but for the logs, in whatever order every snapshot lists
its jobs and steps. -/
theorem follow_of_reordered {polls relisted : List RunSnapshot}
    (h : List.Forall₂ RunSnapshot.Reordered polls relisted) (e : Execution) (names : NameMap) :
    (e.follow names polls).unlinked = (e.follow names relisted).unlinked := by
  suffices hcongr : ∀ e f : Execution, e.unlinked = f.unlinked →
      (e.follow names polls).unlinked = (f.follow names relisted).unlinked from hcongr e e rfl
  induction h with
  | nil => exact fun _ _ he ↦ he
  | cons hst _ ih => exact fun _ _ he ↦ ih _ _ (unlinked_reduce_congr he hst)

end Execution

end Blockflow
