import Blockflow.Proofs.Run.Progress
import Blockflow.Proofs.Workflow.Telling
import Blockflow.Remote.Tracker

/-!
# What is told of a run

Who shows a run sees what its tracker tells, and nothing else. That is enough: whatever snapshots
come, each block and the run are told to move forward only, where they were told to be last is where
they are, and a snapshot that comes twice tells nothing the second time.
-/

namespace Blockflow

namespace Event

/-- Where a block has moved, if an event tells that of it. -/
def blockStatus? (block : String) : Event → Option BlockStatus
  | .blockMoved _ _ other status => if other = block then some status else none
  | _ => none

/-- Where a run has moved, if an event tells that. -/
def runStatus? : Event → Option RunStatus
  | .runMoved _ _ status => some status
  | _ => none

end Event

/-! ### Steps forward -/

namespace BlockStatus

theorem rank_le_two (t : BlockStatus) : t.rank ≤ 2 := by cases t <;> decide

theorem rank_eq_of_isTerminal {t u : BlockStatus} (ht : t.isTerminal = true)
    (hu : u.isTerminal = true) : t.rank = u.rank := by
  cases t <;> cases u <;> first | rfl | simp [isTerminal] at ht hu

/-- A block that goes on is the only one as far as it. -/
theorem eq_of_rank_eq {t u : BlockStatus} (h : t.rank = u.rank) (ht : t.isTerminal = false) :
    u = t := by
  cases t <;> cases u <;> simp [rank, isTerminal] at h ht ⊢

end BlockStatus

namespace RunStatus

theorem rank_le_two (t : RunStatus) : t.rank ≤ 2 := by cases t <;> decide

theorem rank_eq_of_isTerminal {t u : RunStatus} (ht : t.isTerminal = true)
    (hu : u.isTerminal = true) : t.rank = u.rank := by
  cases t <;> cases u <;> first | rfl | simp [isTerminal] at ht hu

/-- A run that goes on is the only one as far as it. -/
theorem eq_of_rank_eq {t u : RunStatus} (h : t.rank = u.rank) (ht : t.isTerminal = false) :
    u = t := by
  cases t <;> cases u <;> simp [rank, isTerminal] at h ht ⊢

end RunStatus

/-- A block that stands elsewhere later on has moved forward. -/
theorem BlockState.Leads.rank_lt {s later : BlockState} (h : s.Leads later)
    (hne : s.status ≠ later.status) : s.status.rank < later.status.rank := by
  refine Nat.lt_of_le_of_ne h.rank fun hrank ↦ ?_
  cases hs : s.status.isTerminal with
  | true => exact hne (h.ended hs ▸ rfl)
  | false => exact hne (BlockStatus.eq_of_rank_eq hrank hs).symm

namespace Execution

variable {e f : Execution}

/-- A run that stands elsewhere later on has moved forward. -/
theorem Leads.rank_lt (h : e.Leads f) (hne : e.status ≠ f.status) :
    e.status.rank < f.status.rank := by
  refine Nat.lt_of_le_of_ne h.rank fun hrank ↦ ?_
  cases he : e.status.isTerminal with
  | true => exact hne (h.ended he ▸ rfl)
  | false => exact hne (RunStatus.eq_of_rank_eq hrank he).symm

/-- Whether the record of each block stands under the block. -/
def IsKeyed (e : Execution) : Prop := ∀ key b, e.blocks.get? key = some b → b.block = key

theorem isKeyed_start (id : String) (w : Workflow) (r : Registry) (run : Nat)
    (startedAt : Timestamp) : (start id w r run startedAt).IsKeyed := by
  intro key b hb
  rw [eq_pending_of_get?_start hb, BlockState.pending]

/-- The blocks of an execution are those that it had before. -/
theorem Leads.get?_eq_none_iff (h : e.Leads f) {key : String} :
    f.blocks.get? key = none ↔ e.blocks.get? key = none := by
  rw [← Option.not_isSome_iff_eq_none, ← Option.not_isSome_iff_eq_none, ← Dict.mem_keys_iff,
    ← Dict.mem_keys_iff, h.keys]

theorem Leads.isKeyed (h : e.Leads f) (he : e.IsKeyed) : f.IsKeyed := by
  intro key c hc
  cases hb : e.blocks.get? key with
  | none => simp [h.get?_eq_none_iff.mpr hb] at hc
  | some b =>
    obtain ⟨d, hd, hbd⟩ := h.blocks key b hb
    obtain rfl : d = c := Option.some.inj (hd ▸ hc)
    rw [hbd.block, he key b hb]

end Execution

namespace Tracker

variable {t : Tracker} {events : List Event} {after : Execution}

/-! ### What one step tells -/

/-- Of a block it is told where it stands, if it stands elsewhere than before. -/
theorem filterMap_blockStatus?_moves (before : Execution) (hkeyed : after.IsKeyed)
    (block : String) :
    (moves before after).filterMap (Event.blockStatus? block) =
      ((after.blockStatus? block).filter fun status ↦
        before.blockStatus? block ≠ some status).toList := by
  have hrun : (if before.status = after.status then []
      else [Event.runMoved after.workflow after.id after.status]).filterMap
        (Event.blockStatus? block) = [] := by
    split <;> rfl
  let told (b : BlockState) : Option BlockStatus :=
    if before.blockStatus? block ≠ some b.status then some b.status else none
  have hvalues : (moves before after).filterMap (Event.blockStatus? block) =
      after.blocks.values.filterMap fun b ↦ if b.block = block then told b else none := by
    rw [moves, List.filterMap_append, hrun, List.append_nil, List.filterMap_map,
      Execution.changedBlocks, List.filterMap_filter]
    refine List.filterMap_congr fun b _ ↦ ?_
    by_cases hblock : b.block = block
    · simp [Event.blockStatus?, told, hblock]
    · simp [Event.blockStatus?, hblock]
  have hafter : after.blockStatus? block = (after.blocks.get? block).map (·.status) := rfl
  rw [hvalues, Dict.filterMap_values hkeyed block, hafter]
  cases after.blocks.get? block with
  | none => rfl
  | some b => simp [told, Option.filter]

/-- Of the run it is told where it stands, if it stands elsewhere than before. -/
theorem filterMap_runStatus?_moves (before after : Execution) :
    (moves before after).filterMap Event.runStatus? =
      if before.status = after.status then [] else [after.status] := by
  have hblocks : ((Execution.changedBlocks before after).map fun b ↦
      Event.blockMoved after.workflow after.id b.block b.status).filterMap
        Event.runStatus? = [] := by
    rw [List.filterMap_map, List.filterMap_eq_nil_iff]
    exact fun _ _ ↦ rfl
  rw [moves, List.filterMap_append, hblocks, List.nil_append]
  split <;> rfl

/-- Nothing is told of an execution that stays as it is. -/
theorem moves_self {e : Execution} (hkeyed : e.IsKeyed) : moves e e = [] := by
  have hblocks : Execution.changedBlocks e e = [] := by
    rw [Execution.changedBlocks, List.filter_eq_nil_iff]
    intro b hb
    obtain ⟨key, hkey⟩ := Dict.mem_values_iff.mp hb
    simp [Execution.blockStatus?, hkeyed key b hkey, hkey]
  rw [moves, hblocks, if_pos rfl]
  rfl

/-! ### What all steps tell -/

/-- The tracker after snapshots, and what has been told of them. -/
def applyAll (t : Tracker) (snapshots : List RunSnapshot) : Tracker × List Event :=
  snapshots.foldl (fun told s ↦ ((told.1.apply s).1, told.2 ++ (told.1.apply s).2)) (t, [])

/-- What holds of a tracker of which the given events have been told since its run started. -/
structure Reports (t : Tracker) (events : List Event) : Prop where
  /-- The record of each block stands under the block. -/
  keyed : t.execution.IsKeyed
  /-- Each block was told to move forward to where it stands. Nothing is told of others. -/
  block : ∀ block, Told (Event.blockStatus? block) (fun a b ↦ a.rank < b.rank) .pending
    ((t.execution.blockStatus? block).getD .pending) events
  /-- The run was told to move forward to where it stands. -/
  run : Told Event.runStatus? (fun a b ↦ a.rank < b.rank) .pending t.execution.status events

theorem reports_start (id : String) (w : Workflow) (r : Registry) (run : Nat)
    (startedAt : Timestamp) (names : NameMap) (pace : Pace) :
    (start (.start id w r run startedAt) names pace).Reports [] where
  keyed := Execution.isKeyed_start id w r run startedAt
  block block := by
    have hpending : ((Execution.start id w r run startedAt).blockStatus? block).getD .pending =
        .pending := by
      cases h : (Execution.start id w r run startedAt).blockStatus? block with
      | none => rfl
      | some status => exact Execution.eq_pending_of_blockStatus?_start h
    change Told _ _ _ (((Execution.start id w r run startedAt).blockStatus? block).getD .pending) []
    rw [hpending]
    exact .nil
  run := .nil

/-- A block that a tracker has is told where it stands after a snapshot, and only if that is further
ahead. -/
private theorem told_block_apply {block : String} (hkeyed : t.execution.IsKeyed)
    (h : Told (Event.blockStatus? block) (fun a b ↦ a.rank < b.rank) .pending
      ((t.execution.blockStatus? block).getD .pending) events) (s : RunSnapshot) :
    Told (Event.blockStatus? block) (fun a b ↦ a.rank < b.rank) .pending
      (((t.apply s).1.execution.blockStatus? block).getD .pending) (events ++ (t.apply s).2) := by
  have hleads := t.execution.leads_reduce s t.names
  have hmoves := filterMap_blockStatus?_moves t.execution (hleads.isKeyed hkeyed) block
  change Told _ _ _ (((t.execution.reduce s t.names).blockStatus? block).getD .pending)
    (events ++ moves t.execution (t.execution.reduce s t.names))
  cases hb : t.execution.blocks.get? block with
  | none =>
    have hc := hleads.get?_eq_none_iff.mpr hb
    simp only [Execution.blockStatus?, hb, hc, Option.map_none] at h hmoves ⊢
    exact h.append_of_eq_nil hmoves
  | some b =>
    obtain ⟨c, hc, hbc⟩ := hleads.blocks block b hb
    simp only [Execution.blockStatus?, hb, hc, Option.map_some, Option.getD_some] at h hmoves ⊢
    by_cases hsame : b.status = c.status
    · rw [← hsame]
      exact h.append_of_eq_nil (by simpa [hsame, Option.filter] using hmoves)
    · exact h.append_of_eq_singleton (by simpa [hsame, Option.filter] using hmoves)
        (hbc.rank_lt hsame)

/-- A tracker goes on telling as it should. -/
theorem Reports.apply (h : t.Reports events) (s : RunSnapshot) :
    (t.apply s).1.Reports (events ++ (t.apply s).2) where
  keyed := (t.execution.leads_reduce s t.names).isKeyed h.keyed
  block block := told_block_apply h.keyed (h.block block) s
  run := by
    have hmoves := filterMap_runStatus?_moves t.execution (t.execution.reduce s t.names)
    change Told _ _ _ (t.execution.reduce s t.names).status
      (events ++ moves t.execution (t.execution.reduce s t.names))
    by_cases hsame : t.execution.status = (t.execution.reduce s t.names).status
    · rw [if_pos hsame] at hmoves
      rw [← hsame]
      exact h.run.append_of_eq_nil hmoves
    · rw [if_neg hsame] at hmoves
      exact h.run.append_of_eq_singleton hmoves
        ((t.execution.leads_reduce s t.names).rank_lt hsame)

theorem Reports.applyAll (h : t.Reports []) (snapshots : List RunSnapshot) :
    (t.applyAll snapshots).1.Reports (t.applyAll snapshots).2 := by
  induction snapshots using List.reverseRecOn with
  | nil => exact h
  | append_singleton snapshots s ih =>
    have hstep : t.applyAll (snapshots ++ [s]) = (((t.applyAll snapshots).1.apply s).1,
        (t.applyAll snapshots).2 ++ ((t.applyAll snapshots).1.apply s).2) := List.foldl_concat ..
    rw [hstep]
    exact ih.apply s

/-- A snapshot that comes twice tells nothing the second time. -/
theorem Reports.apply_apply (h : t.Reports events) (s : RunSnapshot) :
    ((t.apply s).1.apply s).2 = [] := by
  change moves (t.execution.reduce s t.names) ((t.execution.reduce s t.names).reduce s t.names) = []
  rw [Execution.reduce_reduce]
  exact moves_self ((t.execution.leads_reduce s t.names).isKeyed h.keyed)

/-- Whatever snapshots come after the start of a run, each of its blocks is told to move forward, at
most twice, to where it stands, and so is the run. The end of each is told once at most, and a
snapshot that comes again tells nothing. -/
theorem told_applyAll (id : String) (w : Workflow) (r : Registry) (run : Nat)
    (startedAt : Timestamp) (names : NameMap) (pace : Pace) (snapshots : List RunSnapshot) :
    let told := (start (.start id w r run startedAt) names pace).applyAll snapshots
    (∀ block,
      Told (Event.blockStatus? block) (fun a b ↦ a.rank < b.rank) .pending
        ((told.1.execution.blockStatus? block).getD .pending) told.2 ∧
      (told.2.filterMap (Event.blockStatus? block)).length ≤ 2 ∧
      (told.2.filterMap (Event.blockStatus? block)).countP (·.isTerminal) ≤ 1) ∧
    Told Event.runStatus? (fun a b ↦ a.rank < b.rank) .pending told.1.execution.status told.2 ∧
    (told.2.filterMap Event.runStatus?).length ≤ 2 ∧
    (told.2.filterMap Event.runStatus?).countP (·.isTerminal) ≤ 1 ∧
    ∀ s, ((told.1.apply s).1.apply s).2 = [] := by
  intro told
  have hreports : told.1.Reports told.2 :=
    (reports_start id w r run startedAt names pace).applyAll snapshots
  refine ⟨fun block ↦ ⟨hreports.block block, ?_, ?_⟩, hreports.run, ?_, ?_, hreports.apply_apply⟩
  · exact (hreports.block block).length_add_rank_le.trans (BlockStatus.rank_le_two _)
  · exact (hreports.block block).countP_le_one fun _ _ ↦ BlockStatus.rank_eq_of_isTerminal
  · exact hreports.run.length_add_rank_le.trans (RunStatus.rank_le_two _)
  · exact hreports.run.countP_le_one fun _ _ ↦ RunStatus.rank_eq_of_isTerminal

end Tracker

end Blockflow
