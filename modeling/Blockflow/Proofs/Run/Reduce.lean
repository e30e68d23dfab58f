import Blockflow.Proofs.Dict
import Blockflow.Run.Reduce

/-!
# What a snapshot does to an execution

A snapshot changes nothing, or it puts every block and then the run where it says. Where a block
stands after a snapshot depends on where it stood before and on what the snapshot says about the
block and about the run, and on no other block.
-/

namespace Blockflow

namespace BlockStatus

/-- Whether a block may stand at the second place once it has stood at the first one: it never goes
back, and stays where it has come to its end. -/
def Leads (t u : BlockStatus) : Prop :=
  t.rank ≤ u.rank ∧ (t.isTerminal = true → u = t)

theorem Leads.refl (t : BlockStatus) : t.Leads t := ⟨Nat.le_refl _, fun _ ↦ rfl⟩

theorem Leads.trans {t u v : BlockStatus} (htu : t.Leads u) (huv : u.Leads v) : t.Leads v := by
  refine ⟨Nat.le_trans htu.1 huv.1, fun ht ↦ ?_⟩
  have hu : u = t := htu.2 ht
  rw [huv.2 (hu ▸ ht), hu]

/-- Where a block stands after all that is said about it. -/
def observe (t : BlockStatus) (all : List Observation) : BlockStatus :=
  if all.isEmpty || t.isTerminal || (Observation.aggregate all).rank < t.rank then t
  else Observation.aggregate all

/-- Where a block stands after the end of its run. -/
def settle (run : RunStatus) : BlockStatus → BlockStatus
  | .pending => .skipped
  | .running =>
    match run with
    | .success => .success
    | .failure => .failure
    | _ => .skipped
  | t => t

theorem isTerminal_settle (run : RunStatus) (t : BlockStatus) :
    (t.settle run).isTerminal = true := by
  cases t <;> cases run <;> rfl

theorem settle_of_isTerminal {t : BlockStatus} (h : t.isTerminal = true) (run : RunStatus) :
    t.settle run = t := by
  cases t <;> first | rfl | simp [isTerminal] at h

theorem observe_of_isTerminal {t : BlockStatus} (h : t.isTerminal = true)
    (all : List Observation) : t.observe all = t := by simp [observe, h]

/-- A block that has not started is where all that is said puts it. -/
theorem observe_pending (all : List Observation) :
    pending.observe all = if all.isEmpty then .pending else Observation.aggregate all := by
  simp [observe, isTerminal, rank]

theorem leads_observe (t : BlockStatus) (all : List Observation) : t.Leads (t.observe all) := by
  refine ⟨?_, fun ht ↦ observe_of_isTerminal ht all⟩
  unfold observe
  split
  · exact Nat.le_refl _
  · next h =>
    simp only [Bool.or_eq_true, decide_eq_true_eq, not_or] at h
    exact Nat.not_lt.mp h.2

theorem leads_settle (run : RunStatus) (t : BlockStatus) : t.Leads (t.settle run) := by
  refine ⟨?_, fun ht ↦ settle_of_isTerminal ht run⟩
  cases t <;> cases run <;> simp [settle, rank]

end BlockStatus

namespace BlockState

/-- What is said of a block changes nothing of it, or it is put into the record of a block that goes
on. -/
theorem observe_eq_or (s : BlockState) (all : List Observation) : s.observe all = s ∨
    s.status.isTerminal = false ∧ s.observe all =
      { s with
        status := Observation.aggregate all
        startedAt := s.startedAt.or (Timestamp.earliest? (all.filterMap (·.startedAt)))
        finishedAt :=
          if (Observation.aggregate all).isTerminal then
            Timestamp.latest? (all.filterMap (·.finishedAt))
          else s.finishedAt
        log := s.log.or (all.findSome? (·.log)) } := by
  simp only [observe]
  split
  · exact .inl rfl
  · next h =>
    simp only [Bool.or_eq_true, not_or, Bool.not_eq_true] at h
    exact .inr ⟨h.1.2, rfl⟩

theorem status_observe (s : BlockState) (all : List Observation) :
    (s.observe all).status = s.status.observe all := by
  simp only [observe, BlockStatus.observe]
  split <;> rfl

/-- The end of its run changes nothing of a block but where it stands. -/
theorem settle_eq (run : RunStatus) (s : BlockState) :
    s.settle run = { s with status := s.status.settle run } := by
  obtain ⟨block, status, startedAt, finishedAt, log⟩ := s
  cases status <;> rfl

theorem status_settle (run : RunStatus) (s : BlockState) :
    (s.settle run).status = s.status.settle run := by
  rw [settle_eq]

end BlockState

namespace RunSnapshot

variable {s : RunSnapshot} {names : NameMap} {block : String}

/-- Everything that a snapshot says about a block. -/
def about (s : RunSnapshot) (names : NameMap) (block : String) : List Observation :=
  Observation.about block (Observation.ofSnapshot names s)

/-- Where a block stands after a snapshot. -/
def move (s : RunSnapshot) (names : NameMap) (block : String) (t : BlockStatus) : BlockStatus :=
  if s.status = .completed then (t.observe (s.about names block)).settle s.runStatus
  else t.observe (s.about names block)

/-- The state of a block after a snapshot. -/
def moveState (s : RunSnapshot) (names : NameMap) (block : String) (b : BlockState) : BlockState :=
  if s.status = .completed then (b.observe (s.about names block)).settle s.runStatus
  else b.observe (s.about names block)

theorem moveState_of_completed (h : s.status = .completed) : s.moveState names =
    fun block b ↦ (b.observe (s.about names block)).settle s.runStatus := by
  funext block b
  rw [moveState, if_pos h]

theorem moveState_of_not_completed (h : s.status ≠ .completed) :
    s.moveState names = fun block b ↦ b.observe (s.about names block) := by
  funext block b
  rw [moveState, if_neg h]

theorem status_moveState (b : BlockState) :
    (s.moveState names block b).status = s.move names block b.status := by
  unfold moveState move
  split
  · rw [BlockState.status_settle, BlockState.status_observe]
  · exact BlockState.status_observe _ _

/-- The end of the run is the end of all its blocks. -/
theorem isTerminal_moveState {b : BlockState} (hs : s.status = .completed) :
    (s.moveState names block b).status.isTerminal = true := by
  rw [status_moveState, move, if_pos hs]
  exact BlockStatus.isTerminal_settle _ _

/-- When a run that started at the given time has ended: with the last of its jobs. -/
def endedAt (s : RunSnapshot) (startedAt : Timestamp) : Timestamp :=
  (Timestamp.latest? (s.jobs.filterMap (·.completedAt))).getD startedAt

/-- A run has ended exactly if the remote side says so. -/
theorem isTerminal_runStatus : s.runStatus.isTerminal = true ↔ s.status = .completed := by
  unfold runStatus
  split
  · next h =>
    simp only [h, iff_true]
    cases s.conclusion with
    | none => rfl
    | some c => cases c <;> rfl
  · next h =>
    simp only [h, iff_false]
    split <;> simp [RunStatus.isTerminal]

/-- A snapshot moves a block forward. -/
theorem leads_move (s : RunSnapshot) (names : NameMap) (block : String) (t : BlockStatus) :
    t.Leads (s.move names block t) := by
  have hobserve := t.leads_observe (s.about names block)
  unfold move
  split
  · exact hobserve.trans (BlockStatus.leads_settle _ _)
  · exact hobserve

end RunSnapshot

namespace Execution

variable {e : Execution} {s : RunSnapshot} {names : NameMap}

theorem reduce_of_isTerminal (h : e.isTerminal = true) : e.reduce s names = e := by
  simp [reduce, h]

theorem reduce_of_run_ne (h : s.run ≠ e.run) : e.reduce s names = e := by
  simp [reduce, h]

theorem nextStatus_eq_or (blocks : Dict BlockState) :
    e.nextStatus s blocks = s.runStatus ∨
      e.nextStatus s blocks = .running ∧ s.runStatus = .pending := by
  simp only [nextStatus]
  split <;> simp_all

/-- A run is found to wait exactly if the remote side says so, and neither it nor one of its blocks
has started before. -/
theorem nextStatus_eq_pending_iff {blocks : Dict BlockState} : e.nextStatus s blocks = .pending ↔
    s.runStatus = .pending ∧ e.status ≠ .running ∧ ∀ b ∈ blocks.values, b.status = .pending := by
  simp only [nextStatus]
  split
  · next h =>
    simp only [Bool.and_eq_true, Bool.or_eq_true, decide_eq_true_eq, List.any_eq_true] at h
    refine iff_of_false (by simp) fun hwaiting ↦ ?_
    rcases h.2 with hrunning | ⟨b, hb, hstarted⟩
    · exact hwaiting.2.1 hrunning
    · exact hstarted (hwaiting.2.2 b hb)
  · next h =>
    refine ⟨fun hs ↦ ⟨hs, ?_⟩, fun hwaiting ↦ hwaiting.1⟩
    simpa [hs] using h

private theorem isTerminal_nextStatus (e : Execution) (blocks : Dict BlockState) :
    (e.nextStatus s blocks).isTerminal = true ↔ s.status = .completed := by
  rw [← RunSnapshot.isTerminal_runStatus]
  rcases nextStatus_eq_or (e := e) (s := s) blocks with h | ⟨h, hs⟩
  · rw [h]
  · simp [h, hs, RunStatus.isTerminal]

theorem nextStatus_of_completed {blocks : Dict BlockState} (h : s.status = .completed) :
    e.nextStatus s blocks = s.runStatus := by
  refine (nextStatus_eq_or blocks).resolve_right fun hpending ↦ ?_
  have hend := RunSnapshot.isTerminal_runStatus.mpr h
  simp [hpending.2, RunStatus.isTerminal] at hend

/-- The execution after a snapshot of its run, if it has not come to its end before. -/
def advance (e : Execution) (s : RunSnapshot) (names : NameMap) : Execution :=
  { e with
    status := e.nextStatus s (e.observed (Observation.ofSnapshot names s))
    finishedAt := if s.status = .completed then some (s.endedAt e.startedAt) else e.finishedAt
    blocks := e.blocks.mapEntries (s.moveState names) }

/-- An execution has come to its end after a snapshot of its run exactly if the snapshot reports
the end. -/
theorem isTerminal_advance : (e.advance s names).isTerminal = true ↔ s.status = .completed :=
  isTerminal_nextStatus e _

/-- A snapshot of the run moves every block as it says. -/
theorem blockStatus?_advance (block : String) : (e.advance s names).blockStatus? block =
    (e.blockStatus? block).map (s.move names block) := by
  rw [blockStatus?, advance, Dict.get?_mapEntries, Option.map_map, blockStatus?, Option.map_map]
  congr 1
  funext b
  exact RunSnapshot.status_moveState b

section Active

variable (ha : e.isTerminal = false) (hr : s.run = e.run)
include ha hr

/-- What a snapshot of the run does to an execution that goes on. -/
theorem reduce_eq_advance : e.reduce s names = e.advance s names := by
  have hend := isTerminal_nextStatus (s := s) e (e.observed (Observation.ofSnapshot names s))
  rw [reduce, if_neg (by simp [ha, hr]), advance]
  dsimp only
  split
  · next h =>
    have hs : s.status = .completed := hend.mp h
    rw [if_pos hs, RunSnapshot.moveState_of_completed hs, nextStatus_of_completed hs, observed,
      Dict.mapEntries_mapEntries]
    rfl
  · next h =>
    have hs : s.status ≠ .completed := mt hend.mpr h
    rw [if_neg hs, RunSnapshot.moveState_of_not_completed hs]
    rfl

/-- A snapshot of the run ends an execution exactly if it reports the end. -/
theorem isTerminal_reduce : (e.reduce s names).isTerminal = true ↔ s.status = .completed := by
  rw [reduce_eq_advance ha hr]
  exact isTerminal_advance

theorem blockStatus?_reduce (block : String) : (e.reduce s names).blockStatus? block =
    (e.blockStatus? block).map (s.move names block) := by
  rw [reduce_eq_advance ha hr]
  exact blockStatus?_advance block

end Active

/-- A snapshot changes nothing, or it is one of a run that goes on. -/
theorem reduce_eq_or (e : Execution) (s : RunSnapshot) (names : NameMap) :
    e.reduce s names = e ∨ e.isTerminal = false ∧ e.reduce s names = e.advance s names := by
  by_cases hr : s.run = e.run
  · cases ha : e.isTerminal with
    | true => exact .inl (reduce_of_isTerminal ha)
    | false => exact .inr ⟨rfl, reduce_eq_advance ha hr⟩
  · exact .inl (reduce_of_run_ne hr)

theorem run_reduce : (e.reduce s names).run = e.run := by
  rcases reduce_eq_or e s names with h | ⟨-, h⟩
  · rw [h]
  · rw [h, advance]

/-- Any snapshot moves every block forward. -/
theorem exists_leads_reduce (e : Execution) (s : RunSnapshot) (names : NameMap) (block : String) :
    ∃ f : BlockStatus → BlockStatus, (∀ t : BlockStatus, t.Leads (f t)) ∧
      (e.reduce s names).blockStatus? block = (e.blockStatus? block).map f := by
  rcases reduce_eq_or e s names with h | ⟨-, h⟩
  · exact ⟨fun t ↦ t, .refl, by rw [h, Option.map_id']⟩
  · exact ⟨s.move names block, s.leads_move names block, h ▸ blockStatus?_advance block⟩

end Execution

end Blockflow
