import Blockflow.Proofs.Run.Polling

/-!
# Where a run and its blocks stand

The run and its blocks are found to stand somewhere in different ways: the run as the remote side
reports it, a block as everything that has been said about it. Still the two agree: while the run
waits no block has started, once its end has been reported every block has ended, and a time of the
end is there only where something has ended.
-/

namespace Blockflow

namespace BlockState

/-- Whether a block has a time at which it ended only if it has come to its end. -/
def IsTimed (b : BlockState) : Prop := b.finishedAt.isSome = true → b.status.isTerminal = true

theorem isTimed_pending (block : String) : (pending block).IsTimed := nofun

theorem IsTimed.observe {b : BlockState} (h : b.IsTimed) (all : List Observation) :
    (b.observe all).IsTimed := by
  rcases b.observe_eq_or all with hsame | ⟨hopen, hput⟩
  · rwa [hsame]
  · rw [hput, IsTimed]
    dsimp only
    intro hfinished
    split at hfinished
    · next hend => exact hend
    · -- a block that goes on has no time at which it ended
      simp [h hfinished] at hopen

end BlockState

namespace RunSnapshot

variable {s : RunSnapshot} {names : NameMap} {block : String} {b : BlockState}

theorem isTimed_moveState (h : b.IsTimed) : (s.moveState names block b).IsTimed := by
  by_cases hs : s.status = .completed
  · exact fun _ ↦ isTerminal_moveState hs
  · rw [moveState_of_not_completed hs]
    exact h.observe _

end RunSnapshot

namespace Execution

/-- What holds of an execution that is followed from its start. -/
structure Consistent (e : Execution) : Prop where
  /-- No block has started while the run waits. -/
  waiting : e.status = .pending → ∀ key b, e.blocks.get? key = some b → b.status = .pending
  /-- Every block has come to its end once the run has. -/
  ended : e.isTerminal = true → ∀ key b, e.blocks.get? key = some b → b.status.isTerminal = true
  /-- There is a time at which the run ended exactly if it has come to its end. -/
  finishedAt : e.finishedAt.isSome = e.isTerminal
  /-- There is a time at which a block ended only if it has come to its end. -/
  timed : ∀ key b, e.blocks.get? key = some b → b.IsTimed

variable {e : Execution} {s : RunSnapshot} {names : NameMap}

theorem consistent_start (id : String) (w : Workflow) (r : Registry) (run : Nat)
    (startedAt : Timestamp) : (start id w r run startedAt).Consistent where
  waiting _ key b hb := by rw [eq_pending_of_get?_start hb, BlockState.pending]
  ended := nofun
  finishedAt := rfl
  timed key b hb := eq_pending_of_get?_start hb ▸ BlockState.isTimed_pending key

private theorem get?_blocks_advance {key : String} {b : BlockState} :
    (e.advance s names).blocks.get? key = some b ↔
      ∃ a, e.blocks.get? key = some a ∧ s.moveState names key a = b := by
  rw [advance, Dict.get?_mapEntries, Option.map_eq_some_iff]

/-- A run is found to wait only if all its blocks are. -/
private theorem waiting_advance (h : (e.advance s names).status = .pending) {key : String}
    {b : BlockState} (hb : (e.advance s names).blocks.get? key = some b) :
    b.status = .pending := by
  have hs : s.status ≠ .completed := by
    intro hs
    have hend : (e.advance s names).isTerminal = true := isTerminal_advance.mpr hs
    simp [isTerminal, h, RunStatus.isTerminal] at hend
  rw [advance, RunSnapshot.moveState_of_not_completed hs] at hb
  exact (nextStatus_eq_pending_iff.mp h).2.2 b (Dict.mem_values_iff.mpr ⟨key, hb⟩)

/-- A snapshot of its run keeps an execution that goes on consistent. -/
theorem Consistent.advance (h : e.Consistent) (ha : e.isTerminal = false) :
    (e.advance s names).Consistent where
  waiting hwaiting _ _ hb := waiting_advance hwaiting hb
  ended hend key b hb := by
    obtain ⟨a, -, rfl⟩ := get?_blocks_advance.mp hb
    exact RunSnapshot.isTerminal_moveState (isTerminal_advance.mp hend)
  finishedAt := by
    rw [Bool.eq_iff_iff, isTerminal_advance, Execution.advance]
    dsimp only
    split
    · next hs => simp [hs]
    · next hs => simp [hs, h.finishedAt, ha]
  timed key b hb := by
    obtain ⟨a, ha, rfl⟩ := get?_blocks_advance.mp hb
    exact RunSnapshot.isTimed_moveState (h.timed key a ha)

/-- Any snapshot keeps an execution consistent. -/
theorem Consistent.reduce (h : e.Consistent) (s : RunSnapshot) (names : NameMap) :
    (e.reduce s names).Consistent := by
  rcases e.reduce_eq_or s names with hsame | ⟨ha, hmoved⟩
  · rwa [hsame]
  · rw [hmoved]
    exact h.advance ha

/-- Any snapshots keep an execution consistent. -/
theorem Consistent.follow (h : e.Consistent) (names : NameMap) (polls : List RunSnapshot) :
    (e.follow names polls).Consistent := by
  induction polls generalizing e with
  | nil => exact h
  | cons s polls ih => exact ih (h.reduce s names)

/-- A snapshot leaves an execution at its end exactly if it was there before, or the snapshot
reports the end of its run. -/
private theorem isTerminal_reduce_iff : (e.reduce s names).isTerminal = true ↔
    e.isTerminal = true ∨ s.run = e.run ∧ s.status = .completed := by
  cases ha : e.isTerminal with
  | true => simp [reduce_of_isTerminal ha, ha]
  | false =>
    by_cases hr : s.run = e.run
    · simp [isTerminal_reduce ha hr, hr]
    · simp [reduce_of_run_ne hr, ha, hr]

/-- Snapshots leave an execution at its end exactly if it was there before, or one of them reports
the end of its run. -/
theorem isTerminal_follow (e : Execution) (names : NameMap) (polls : List RunSnapshot) :
    (e.follow names polls).isTerminal = true ↔
      e.isTerminal = true ∨ ∃ s ∈ polls, s.run = e.run ∧ s.status = .completed := by
  induction polls generalizing e with
  | nil => simp [Execution.follow]
  | cons s polls ih =>
    have hfollow : e.follow names (s :: polls) = (e.reduce s names).follow names polls := rfl
    rw [hfollow, ih, isTerminal_reduce_iff, run_reduce, List.exists_mem_cons_iff, or_assoc]

/-- Whatever snapshots have come since the start of a run, it and its blocks stand where they can
stand together, and the run has come to its end exactly if a snapshot of it has reported the end. -/
theorem consistent_follow (id : String) (w : Workflow) (r : Registry) (run : Nat)
    (startedAt : Timestamp) (names : NameMap) (polls : List RunSnapshot) :
    ((start id w r run startedAt).follow names polls).Consistent ∧
      (((start id w r run startedAt).follow names polls).isTerminal = true ↔
        ∃ s ∈ polls, s.run = run ∧ s.status = .completed) := by
  refine ⟨(consistent_start id w r run startedAt).follow names polls, ?_⟩
  have hopen : (start id w r run startedAt).isTerminal = false := rfl
  rw [isTerminal_follow, hopen, or_iff_right Bool.false_ne_true]
  rfl

end Execution

end Blockflow
