import Blockflow.Proofs.Run.Polling

/-!
# Executions move forward

Whatever snapshots say, and in whatever order they come, an execution moves forward only: no status
goes back, what has come to its end stays as it is, and a time of start or a log that has been found
is kept. A snapshot that comes twice says nothing new the second time.
-/

namespace Blockflow

namespace BlockState

variable {s t u : BlockState}

/-- Saying the same of a block again changes nothing. -/
theorem observe_observe (s : BlockState) (all : List Observation) :
    (s.observe all).observe all = s.observe all := by
  rcases s.observe_eq_or all with hsame | ⟨-, hput⟩
  · rw [hsame, hsame]
  · rcases (s.observe all).observe_eq_or all with hsame | ⟨-, hagain⟩
    · exact hsame
    · -- the same values are put beside those of the first time
      rw [hagain, hput]
      simp only [Option.or_assoc, Option.or_self]
      split <;> rfl

/-- What holds of a block and of the same block later on. -/
structure Leads (s later : BlockState) : Prop where
  /-- It is the same block. -/
  block : later.block = s.block
  /-- It has not gone back. -/
  rank : s.status.rank ≤ later.status.rank
  /-- Nothing of it changes once it has come to its end. -/
  ended : s.status.isTerminal = true → later = s
  /-- The time of its start is kept. -/
  startedAt : ∀ time, s.startedAt = some time → later.startedAt = some time
  /-- Its log is kept. -/
  log : ∀ link, s.log = some link → later.log = some link

theorem Leads.refl (s : BlockState) : s.Leads s where
  block := rfl
  rank := Nat.le_refl _
  ended _ := rfl
  startedAt _ h := h
  log _ h := h

theorem Leads.trans (hst : s.Leads t) (htu : t.Leads u) : s.Leads u where
  block := htu.block.trans hst.block
  rank := Nat.le_trans hst.rank htu.rank
  ended hs := by
    have ht : t = s := hst.ended hs
    rw [htu.ended (ht ▸ hs), ht]
  startedAt time hs := htu.startedAt time (hst.startedAt time hs)
  log link hs := htu.log link (hst.log link hs)

theorem leads_observe (s : BlockState) (all : List Observation) : s.Leads (s.observe all) := by
  have hrank := (s.status.leads_observe all).1
  rw [← status_observe] at hrank
  rcases s.observe_eq_or all with hsame | ⟨hopen, hput⟩
  · rw [hsame]
    exact .refl s
  · rw [hput] at hrank ⊢
    refine ⟨rfl, hrank, fun hs ↦ ?_, fun time hs ↦ ?_, fun link hs ↦ ?_⟩
    · simp [hopen] at hs
    · rw [hs, Option.some_or]
    · rw [hs, Option.some_or]

theorem leads_settle (run : RunStatus) (s : BlockState) : s.Leads (s.settle run) := by
  obtain ⟨hrank, hended⟩ := s.status.leads_settle run
  rw [settle_eq]
  refine ⟨rfl, hrank, fun hs ↦ ?_, fun _ hs ↦ hs, fun _ hs ↦ hs⟩
  rw [hended hs]

end BlockState

namespace RunSnapshot

/-- A snapshot moves the record of a block forward. -/
theorem leads_moveState (s : RunSnapshot) (names : NameMap) (block : String) (b : BlockState) :
    b.Leads (s.moveState names block b) := by
  have hobserve := b.leads_observe (s.about names block)
  unfold moveState
  split
  · exact hobserve.trans (BlockState.leads_settle _ _)
  · exact hobserve

/-- A snapshot that comes again leaves the record of a block as it is. -/
theorem moveState_moveState (s : RunSnapshot) (names : NameMap) (block : String) (b : BlockState) :
    s.moveState names block (s.moveState names block b) = s.moveState names block b := by
  by_cases hs : s.status = .completed
  · exact (s.leads_moveState names block _).ended (isTerminal_moveState hs)
  · rw [moveState_of_not_completed hs]
    exact b.observe_observe _

end RunSnapshot

namespace Execution

variable {e f g : Execution} {s : RunSnapshot} {names : NameMap}

/-! ### A snapshot that comes again -/

/-- Where a run stands does not change by being found once more from the same blocks. -/
private theorem nextStatus_of_status_eq {blocks : Dict BlockState}
    (h : f.status = e.nextStatus s blocks) : f.nextStatus s blocks = e.nextStatus s blocks := by
  rcases nextStatus_eq_or (e := e) (s := s) blocks with he | ⟨he, hs⟩
  · rcases nextStatus_eq_or (e := f) (s := s) blocks with hf | ⟨-, hs⟩
    · rw [hf, he]
    · -- the first time all blocks were waiting, and so they still are
      have hwaiting := nextStatus_eq_pending_iff.mp (he.trans hs)
      have hstatus : f.status ≠ .running := by
        rw [h, he, hs]
        decide
      rw [he, hs]
      exact nextStatus_eq_pending_iff.mpr ⟨hs, hstatus, hwaiting.2.2⟩
  · -- the run has been found to go on, so it does not wait
    rcases nextStatus_eq_or (e := f) (s := s) blocks with hf | ⟨hf, -⟩
    · exact absurd (h.trans he) (nextStatus_eq_pending_iff.mp (hf.trans hs)).2.1
    · rw [hf, he]

private theorem observed_advance (hs : s.status ≠ .completed) :
    (e.advance s names).observed (Observation.ofSnapshot names s) =
      e.observed (Observation.ofSnapshot names s) := by
  rw [observed, advance, RunSnapshot.moveState_of_not_completed hs, Dict.mapEntries_mapEntries]
  simp only [RunSnapshot.about, BlockState.observe_observe]
  rfl

/-- A snapshot that comes again changes nothing of an execution that it has moved. -/
theorem advance_advance (e : Execution) (s : RunSnapshot) (names : NameMap) :
    (e.advance s names).advance s names = e.advance s names := by
  have hstatus : (e.advance s names).nextStatus s
      ((e.advance s names).observed (Observation.ofSnapshot names s)) =
        (e.advance s names).status := by
    by_cases hs : s.status = .completed
    · rw [nextStatus_of_completed hs, advance, nextStatus_of_completed hs]
    · rw [observed_advance hs]
      exact nextStatus_of_status_eq rfl
  have hblocks : (e.advance s names).blocks.mapEntries (s.moveState names) =
      (e.advance s names).blocks := by
    rw [advance, Dict.mapEntries_mapEntries]
    simp only [RunSnapshot.moveState_moveState]
  have hfinished : (if s.status = .completed then some (s.endedAt (e.advance s names).startedAt)
      else (e.advance s names).finishedAt) = (e.advance s names).finishedAt := by
    by_cases hs : s.status = .completed <;> simp [advance, hs]
  rw [advance, hstatus, hblocks, hfinished]

/-- Reading a snapshot twice is reading it once. -/
theorem reduce_reduce (e : Execution) (s : RunSnapshot) (names : NameMap) :
    (e.reduce s names).reduce s names = e.reduce s names := by
  rcases e.reduce_eq_or s names with hsame | ⟨-, hmoved⟩
  · rw [hsame, hsame]
  · rw [hmoved]
    rcases (e.advance s names).reduce_eq_or s names with hsame | ⟨-, hagain⟩
    · exact hsame
    · rw [hagain, advance_advance]

/-! ### Any snapshots -/

/-- What holds of an execution and of the same execution later on. -/
structure Leads (e later : Execution) : Prop where
  /-- It is called the same. -/
  id : later.id = e.id
  /-- It is one of the same workflow. -/
  workflow : later.workflow = e.workflow
  /-- It follows the same run. -/
  run : later.run = e.run
  /-- It started at the same time. -/
  startedAt : later.startedAt = e.startedAt
  /-- It has not gone back. -/
  rank : e.status.rank ≤ later.status.rank
  /-- Nothing of it changes once it has come to its end. -/
  ended : e.isTerminal = true → later = e
  /-- It has the same blocks. -/
  keys : later.blocks.keys = e.blocks.keys
  /-- None of its blocks has gone back. -/
  blocks : ∀ key b, e.blocks.get? key = some b → ∃ c, later.blocks.get? key = some c ∧ b.Leads c

theorem Leads.refl (e : Execution) : e.Leads e where
  id := rfl
  workflow := rfl
  run := rfl
  startedAt := rfl
  rank := Nat.le_refl _
  ended _ := rfl
  keys := rfl
  blocks _ b hb := ⟨b, hb, .refl b⟩

theorem Leads.trans (hef : e.Leads f) (hfg : f.Leads g) : e.Leads g where
  id := hfg.id.trans hef.id
  workflow := hfg.workflow.trans hef.workflow
  run := hfg.run.trans hef.run
  startedAt := hfg.startedAt.trans hef.startedAt
  rank := Nat.le_trans hef.rank hfg.rank
  ended he := by
    have hf : f = e := hef.ended he
    rw [hfg.ended (hf ▸ he), hf]
  keys := hfg.keys.trans hef.keys
  blocks key b hb := by
    obtain ⟨c, hc, hbc⟩ := hef.blocks key b hb
    obtain ⟨d, hd, hcd⟩ := hfg.blocks key c hc
    exact ⟨d, hd, hbc.trans hcd⟩

/-- A run that goes on is not found to wait again once it has started. -/
private theorem rank_le_nextStatus (ha : e.isTerminal = false) (blocks : Dict BlockState) :
    e.status.rank ≤ (e.nextStatus s blocks).rank := by
  cases he : e.status with
  | pending => exact Nat.zero_le _
  | running =>
    cases hnext : e.nextStatus s blocks with
    | pending => exact absurd he (nextStatus_eq_pending_iff.mp hnext).2.1
    | running | success | failure | cancelled => decide
  | success | failure | cancelled => simp [isTerminal, he, RunStatus.isTerminal] at ha

/-- A snapshot of its run moves an execution that goes on forward. -/
theorem leads_advance (ha : e.isTerminal = false) : e.Leads (e.advance s names) where
  id := rfl
  workflow := rfl
  run := rfl
  startedAt := rfl
  rank := rank_le_nextStatus ha _
  ended he := by simp [ha] at he
  keys := Dict.keys_mapEntries _ _
  blocks key b hb :=
    ⟨s.moveState names key b, by rw [advance, Dict.get?_mapEntries, hb, Option.map_some],
      s.leads_moveState names key b⟩

/-- Any snapshot moves an execution forward. -/
theorem leads_reduce (e : Execution) (s : RunSnapshot) (names : NameMap) :
    e.Leads (e.reduce s names) := by
  rcases e.reduce_eq_or s names with hsame | ⟨ha, hmoved⟩
  · rw [hsame]
    exact .refl e
  · rw [hmoved]
    exact leads_advance ha

private theorem leads_polls (e : Execution) (names : NameMap) (polls : List RunSnapshot) :
    e.Leads (e.follow names polls) := by
  induction polls generalizing e with
  | nil => exact .refl e
  | cons s polls ih => exact (e.leads_reduce s names).trans (ih (e.reduce s names))

/-- Whatever snapshots have come, those that come after them move the execution forward. -/
theorem leads_follow (e : Execution) (names : NameMap) (earlier later : List RunSnapshot) :
    (e.follow names earlier).Leads (e.follow names (earlier ++ later)) := by
  have hsplit : e.follow names (earlier ++ later) = (e.follow names earlier).follow names later :=
    List.foldl_append
  rw [hsplit]
  exact leads_polls _ names later

end Execution

end Blockflow
