import Blockflow.Proofs.Graph.Order
import Blockflow.Proofs.Pipeline.Keys
import Blockflow.Proofs.Workflow.First

/-!
# The plan of jobs

What one more block changes in a plan, and what follows for the plan of a whole workflow: every step
stands in one job, once; whatever comes right before a step stands before it in its job, or in a job
that its job needs; and no job needs more than that.
-/

namespace Blockflow

open Relation Blockflow.Graph

namespace PlannedJob

theorem holds_iff {j : PlannedJob} {id : String} :
    j.holds id = true ↔ ∃ b ∈ j.blocks, b.id = id := by
  simp [holds]

/-- The job with one more block at its end. -/
def append (b : Block) (j : PlannedJob) : PlannedJob := { j with blocks := j.blocks ++ [b] }

end PlannedJob

namespace Plan

open PlannedJob

variable {g : StepGraph} {r : Registry} {jobs earlier : List PlannedJob} {i j : PlannedJob}
variable {done : List Block} {b : Block} {p : String}

/-- A block goes into the job of the only block right before it. -/
theorem joins_of_joined? (h : joined? g r b = some p) (q : String) :
    Joins g.edges q b.id ↔ q = p := by
  rw [← StepGraph.mem_before]
  simp only [joined?] at h
  split at h
  · next single hsingle =>
    split at h
    · simp at h
    · rw [hsingle, List.mem_singleton, Option.some.inj h]
  · simp at h

/-- A control block goes into no job of another block. -/
theorem joined?_eq_none_of_control (h : r.category? b.tag = some .control) :
    joined? g r b = none := by
  simp only [joined?]
  split
  · simp [h]
  · rfl

/-! ### What holds of a plan -/

/-- What holds of a job that is opened after some other jobs: they hold whatever comes right before
its opener, and it needs those of them that do. -/
structure OpenedAfter (g : StepGraph) (earlier : List PlannedJob) (j : PlannedJob) : Prop where
  /-- What comes right before the opener is in an earlier job. -/
  placed : ∀ p, Joins g.edges p j.opener.id → ∃ i ∈ earlier, ∃ u ∈ i.blocks, u.id = p
  /-- The job needs the earlier jobs that hold something right before the opener. -/
  needs : ∀ key, key ∈ j.needs ↔
    ∃ i ∈ earlier, i.key = key ∧ ∃ u ∈ i.blocks, Joins g.edges u.id j.opener.id

/-- What holds of the jobs of some blocks. -/
structure IsPlanOf (g : StepGraph) (r : Registry) (done : List Block) (jobs : List PlannedJob) :
    Prop where
  /-- Every block is in one job, once. -/
  perm : (jobs.flatMap (·.blocks)).Perm done
  /-- No two jobs share a key. -/
  keys : (jobs.map (·.key)).Nodup
  /-- A job holds its opener. -/
  opener : ∀ j ∈ jobs, j.opener ∈ j.blocks
  /-- The opener goes into no other job. -/
  opens : ∀ j ∈ jobs, joined? g r j.opener = none
  /-- Any other block of a job stands somewhere behind the one that it has to follow. -/
  follows : ∀ j ∈ jobs, ∀ b ∈ j.blocks, b = j.opener ∨
    ∃ u ∈ j.blocks, joined? g r b = some u.id ∧ [u, b].Sublist j.blocks
  /-- Every job is opened after the ones before it. -/
  openedAfter : ∀ earlier j later, jobs = earlier ++ j :: later → OpenedAfter g earlier j

theorem isPlanOf_nil : IsPlanOf g r [] [] where
  perm := .refl _
  keys := List.nodup_nil
  opener := by simp
  opens := by simp
  follows := by simp
  openedAfter := by simp

namespace IsPlanOf

theorem mem_done (h : IsPlanOf g r done jobs) (hj : j ∈ jobs) (hb : b ∈ j.blocks) : b ∈ done :=
  h.perm.mem_iff.mp (List.mem_flatMap.mpr ⟨j, hj, hb⟩)

theorem exists_job (h : IsPlanOf g r done jobs) (hb : b ∈ done) : ∃ j ∈ jobs, b ∈ j.blocks :=
  List.mem_flatMap.mp (h.perm.mem_iff.mpr hb)

/-- A block that goes into no job of another block opens one. -/
theorem exists_opener (h : IsPlanOf g r done jobs) (hb : b ∈ done) (hnone : joined? g r b = none) :
    ∃ j ∈ jobs, j.opener = b := by
  obtain ⟨j, hj, hbj⟩ := h.exists_job hb
  rcases h.follows j hj b hbj with heq | ⟨u, -, hjoined, -⟩
  · exact ⟨j, hj, heq.symm⟩
  · simp [hnone] at hjoined

/-- No id is in two jobs. -/
theorem pairwise_holds (h : IsPlanOf g r done jobs) (hd : (done.map (·.id)).Nodup) (id : String) :
    jobs.Pairwise fun i j ↦ ¬(i.holds id = true ∧ j.holds id = true) := by
  have hids : (jobs.flatMap fun j ↦ j.blocks.map (·.id)).Nodup := by
    rw [← List.map_flatMap]
    exact (h.perm.map _).nodup_iff.mpr hd
  refine (List.nodup_flatMap.mp hids).2.imp fun {i j} hij ↦ ?_
  rintro ⟨hi, hj⟩
  obtain ⟨u, hu, rfl⟩ := holds_iff.mp hi
  obtain ⟨v, hv, hvu⟩ := holds_iff.mp hj
  exact hij (List.mem_map_of_mem hu) (List.mem_map.mpr ⟨v, hv, hvu⟩)

theorem eq_of_holds (h : IsPlanOf g r done jobs) (hd : (done.map (·.id)).Nodup) {id : String}
    (hi : i ∈ jobs) (hj : j ∈ jobs) (hih : i.holds id = true) (hjh : j.holds id = true) :
    i = j := by
  have : Std.Symm fun i j : PlannedJob ↦ ¬(i.holds id = true ∧ j.holds id = true) :=
    ⟨fun _ _ hij hji ↦ hij hji.symm⟩
  by_contra hne
  exact (h.pairwise_holds hd id).forall hi hj hne ⟨hih, hjh⟩

end IsPlanOf

/-! ### One more block -/

private theorem flatMap_blocks_changeFirst {q : PlannedJob → Bool} (h : ∃ j ∈ jobs, q j = true) :
    ((Workflow.changeFirst q (append b) jobs).flatMap (·.blocks)).Perm
      (jobs.flatMap (·.blocks) ++ [b]) := by
  induction jobs with
  | nil => simp at h
  | cons j jobs ih =>
    rw [Workflow.changeFirst]
    split
    · simp only [List.flatMap_cons, append, List.append_assoc]
      exact List.perm_append_comm.append_left _
    · next hq =>
      obtain ⟨i, hi, hqi⟩ := h
      have hi' : i ∈ jobs := (List.mem_cons.mp hi).resolve_left fun he ↦ hq (he ▸ hqi)
      simp only [List.flatMap_cons, List.append_assoc]
      exact (ih ⟨i, hi', hqi⟩).append_left _

/-- A job as it is after a block has followed another one into its job. -/
private def extend (p : String) (b : Block) (j : PlannedJob) : PlannedJob :=
  if j.holds p then append b j else j

private theorem extend_key : (extend p b j).key = j.key := by
  unfold extend
  split <;> rfl

private theorem extend_opener : (extend p b j).opener = j.opener := by
  unfold extend
  split <;> rfl

private theorem extend_needs : (extend p b j).needs = j.needs := by
  unfold extend
  split <;> rfl

private theorem blocks_extend :
    (extend p b j).blocks = j.blocks ++ if j.holds p then [b] else [] := by
  unfold extend
  split
  · rfl
  · exact (List.append_nil _).symm

private theorem mem_blocks_extend {u : Block} :
    u ∈ (extend p b j).blocks ↔ u ∈ j.blocks ∨ u = b ∧ j.holds p = true := by
  rw [blocks_extend, List.mem_append]
  split <;> simp_all

private theorem exists_split_map_extend {earlier' later' : List PlannedJob} {j' : PlannedJob}
    (h : jobs.map (extend p b) = earlier' ++ j' :: later') :
    ∃ earlier j later, jobs = earlier ++ j :: later ∧ earlier' = earlier.map (extend p b) ∧
      j' = extend p b j := by
  obtain ⟨earlier, rest, rfl, rfl, hrest⟩ := List.map_eq_append_iff.mp h
  obtain ⟨j, later, rfl, rfl, -⟩ := List.map_eq_cons_iff.mp hrest
  exact ⟨earlier, j, later, rfl, rfl, rfl⟩

private theorem OpenedAfter.extend (h : OpenedAfter g earlier j)
    (hb : ¬Joins g.edges b.id j.opener.id) :
    OpenedAfter g (earlier.map (extend p b)) (extend p b j) where
  placed q hq := by
    rw [extend_opener] at hq
    obtain ⟨i, hi, u, hu, rfl⟩ := h.placed q hq
    exact ⟨_, List.mem_map_of_mem hi, u, mem_blocks_extend.mpr (.inl hu), rfl⟩
  needs key := by
    rw [extend_needs, extend_opener, h.needs key]
    constructor
    · rintro ⟨i, hi, rfl, u, hu, hj⟩
      exact ⟨_, List.mem_map_of_mem hi, extend_key, u, mem_blocks_extend.mpr (.inl hu), hj⟩
    · rintro ⟨i', hi', rfl, u, hu, hj⟩
      obtain ⟨i, hi, rfl⟩ := List.mem_map.mp hi'
      rcases mem_blocks_extend.mp hu with hu | ⟨rfl, -⟩
      · exact ⟨i, hi, extend_key.symm, u, hu, hj⟩
      · exact absurd hj hb

private theorem IsPlanOf.extend (h : IsPlanOf g r done jobs) (hd : (done.map (·.id)).Nodup)
    (hb : ∀ u ∈ done, ¬Joins g.edges b.id u.id) (hp : joined? g r b = some p)
    (hex : ∃ j ∈ jobs, j.holds p = true) :
    IsPlanOf g r (done ++ [b]) (Workflow.changeFirst (·.holds p) (append b) jobs) := by
  have hmap : Workflow.changeFirst (·.holds p) (append b) jobs = jobs.map (Plan.extend p b) :=
    Workflow.changeFirst_eq_map (h.pairwise_holds hd p)
  have hperm := (flatMap_blocks_changeFirst (b := b) hex).trans (h.perm.append_right [b])
  rw [hmap] at hperm ⊢
  refine ⟨hperm, ?keys, ?opener, ?opens, ?follows, ?openedAfter⟩
  case keys => simpa only [List.map_map, Function.comp_def, extend_key] using h.keys
  case opener =>
    intro _ hj'
    obtain ⟨j, hj, rfl⟩ := List.mem_map.mp hj'
    rw [extend_opener]
    exact mem_blocks_extend.mpr (.inl (h.opener j hj))
  case opens =>
    intro _ hj'
    obtain ⟨j, hj, rfl⟩ := List.mem_map.mp hj'
    rw [extend_opener]
    exact h.opens j hj
  case follows =>
    intro _ hj' c hc
    obtain ⟨j, hj, rfl⟩ := List.mem_map.mp hj'
    rw [extend_opener]
    rcases mem_blocks_extend.mp hc with hc | ⟨rfl, hholds⟩
    · refine (h.follows j hj c hc).imp id ?_
      rintro ⟨u, hu, hj?, hs⟩
      refine ⟨u, mem_blocks_extend.mpr (.inl hu), hj?, ?_⟩
      rw [blocks_extend]
      exact hs.trans (List.sublist_append_left _ _)
    · -- the new block stands at the end, so behind the one that it follows
      obtain ⟨u, hu, rfl⟩ := holds_iff.mp hholds
      refine .inr ⟨u, mem_blocks_extend.mpr (.inl hu), hp, ?_⟩
      rw [blocks_extend, if_pos hholds]
      exact (List.singleton_sublist.mpr hu).append (List.Sublist.refl [c])
  case openedAfter =>
    intro earlier' j' later' hsplit
    obtain ⟨earlier, j, later, rfl, rfl, rfl⟩ := exists_split_map_extend hsplit
    have hj : j ∈ earlier ++ j :: later := List.mem_append_right _ List.mem_cons_self
    exact (h.openedAfter earlier j later rfl).extend (hb _ (h.mem_done hj (h.opener j hj)))

private theorem mem_needs_opened (h : IsPlanOf g r done jobs) (hd : (done.map (·.id)).Nodup)
    (key : String) : key ∈ (opened g jobs b).needs ↔
      ∃ i ∈ jobs, i.key = key ∧ ∃ u ∈ i.blocks, Joins g.edges u.id b.id := by
  simp only [opened, mem_ascending, List.mem_filterMap, Option.map_eq_some_iff,
    StepGraph.mem_before]
  constructor
  · rintro ⟨q, hq, i, hfind, rfl⟩
    have hholds : i.holds q = true := by simpa using List.find?_some hfind
    obtain ⟨u, hu, rfl⟩ := holds_iff.mp hholds
    exact ⟨i, List.mem_of_find?_eq_some hfind, rfl, u, hu, hq⟩
  · rintro ⟨i, hi, rfl, u, hu, hj⟩
    have hih : i.holds u.id = true := holds_iff.mpr ⟨u, hu, rfl⟩
    have hsome : (jobs.find? (·.holds u.id)).isSome := List.find?_isSome.mpr ⟨i, hi, hih⟩
    obtain ⟨i', hfind⟩ := Option.isSome_iff_exists.mp hsome
    have hih' : i'.holds u.id = true := by simpa using List.find?_some hfind
    have hi' : i' = i := h.eq_of_holds hd (List.mem_of_find?_eq_some hfind) hi hih' hih
    exact ⟨u.id, hj, i', hfind, hi' ▸ rfl⟩

private theorem IsPlanOf.open (h : IsPlanOf g r done jobs) (hd : (done.map (·.id)).Nodup)
    (hbefore : ∀ p, Joins g.edges p b.id → p ∈ done.map (·.id)) (hb : joined? g r b = none) :
    IsPlanOf g r (done ++ [b]) (jobs ++ [opened g jobs b]) where
  perm := by
    rw [List.flatMap_append]
    exact h.perm.append (.refl _)
  keys := by
    rw [List.map_append, List.map_singleton]
    refine h.keys.append (List.nodup_singleton _) fun key hkey hnew ↦ ?_
    rw [List.mem_singleton.mp hnew] at hkey
    exact freeKey_not_mem _ _ hkey
  opener j hj := by
    rcases List.mem_append.mp hj with hj | hj
    · exact h.opener j hj
    · rw [List.mem_singleton.mp hj]
      exact List.mem_cons_self
  opens j hj := by
    rcases List.mem_append.mp hj with hj | hj
    · exact h.opens j hj
    · rw [List.mem_singleton.mp hj]
      exact hb
  follows j hj c hc := by
    rcases List.mem_append.mp hj with hj | hj
    · exact h.follows j hj c hc
    · rw [List.mem_singleton.mp hj] at hc ⊢
      exact .inl (List.mem_singleton.mp hc)
  openedAfter earlier j later hsplit := by
    rcases List.eq_nil_or_concat later with rfl | ⟨later, last, rfl⟩
    · obtain ⟨rfl, hlast⟩ := List.append_inj' hsplit rfl
      rw [← List.singleton_inj.mp hlast]
      -- the job that has just been opened is the last one
      refine ⟨fun q hq ↦ ?_, mem_needs_opened h hd⟩
      obtain ⟨u, hu, rfl⟩ := List.mem_map.mp (hbefore q hq)
      obtain ⟨i, hi, hui⟩ := h.exists_job hu
      exact ⟨i, hi, u, hui, rfl⟩
    · rw [List.concat_eq_append, ← List.cons_append, ← List.append_assoc] at hsplit
      exact h.openedAfter earlier j later (List.append_inj' hsplit rfl).1

/-- Placing one more block, with everything that comes right before it placed and nothing placed
that it comes right before, gives a plan of one more block. -/
theorem IsPlanOf.place (h : IsPlanOf g r done jobs) (hd : (done.map (·.id)).Nodup)
    (hbefore : ∀ p, Joins g.edges p b.id → p ∈ done.map (·.id))
    (hafter : ∀ u ∈ done, ¬Joins g.edges b.id u.id) :
    IsPlanOf g r (done ++ [b]) (place g r jobs b) := by
  rw [Plan.place]
  split
  · next p hp =>
    obtain ⟨u, hu, hup⟩ := List.mem_map.mp (hbefore p ((joins_of_joined? hp p).mpr rfl))
    obtain ⟨j, hj, huj⟩ := h.exists_job hu
    have hex : ∃ j ∈ jobs, j.holds p = true := ⟨j, hj, holds_iff.mpr ⟨u, huj, hup⟩⟩
    rw [if_pos (List.any_eq_true.mpr hex)]
    exact h.extend hd hafter hp hex
  · next hp => exact h.open hd hbefore hp

/-- The jobs of blocks in order are a plan of these blocks. -/
theorem isPlanOf_ofOrder {blocks : List Block} (hd : (blocks.map (·.id)).Nodup)
    (horder : ∀ pre b post, blocks = pre ++ b :: post →
      ∀ p, Joins g.edges p b.id → p ∈ pre.map (·.id)) :
    IsPlanOf g r blocks (ofOrder g r blocks) := by
  -- the blocks are placed from the first one on, so the induction takes off the last one
  induction blocks using List.reverseRecOn with
  | nil => exact isPlanOf_nil
  | append_singleton done b ih =>
    have hd' : (done.map (·.id)).Nodup ∧ b.id ∉ done.map (·.id) := by
      rw [List.map_append, List.nodup_append] at hd
      exact ⟨hd.1, fun hb ↦ hd.2.2 _ hb _ (List.mem_singleton_self _) rfl⟩
    have hdone : IsPlanOf g r done (ofOrder g r done) := by
      refine ih hd'.1 fun pre c post hsplit ↦ horder pre c (post ++ [b]) ?_
      rw [hsplit, List.append_assoc, List.cons_append]
    rw [ofOrder, List.foldl_append]
    refine hdone.place hd'.1 (horder done b [] rfl) fun u hu hbu ↦ hd'.2 ?_
    obtain ⟨pre, post, rfl⟩ := List.append_of_mem hu
    have hmem := horder pre u (post ++ [b]) (by simp) b.id hbu
    rw [List.map_append]
    exact List.mem_append_left _ hmem

end Plan

end Blockflow
