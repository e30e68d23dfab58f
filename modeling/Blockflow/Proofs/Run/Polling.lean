import Blockflow.Block.Catalog
import Blockflow.Proofs.Run.Reduce
import Mathlib.Data.List.Chain

/-!
# How often a run is polled

While a run goes on, its listing grows: jobs and steps move forward, and new ones appear. Whoever
polls it several times finds each block where the first snapshot that decides the block puts it
alone, however many snapshots come before that one and after it.
-/

namespace Blockflow

/-! ### Growing listings -/

namespace RemoteStatus

/-- How far something has come, as the remote side says it. -/
def rank : RemoteStatus → Nat
  | .inProgress => 1
  | .completed => 2
  | _ => 0

/-- Whether something that is first reported in one way may be reported in another way later: it
never goes back, and once completed it keeps its conclusion. -/
def Advances (status : RemoteStatus) (conclusion : Option Conclusion) (laterStatus : RemoteStatus)
    (laterConclusion : Option Conclusion) : Prop :=
  status.rank ≤ laterStatus.rank ∧ (status = .completed → laterConclusion = conclusion)

instance (s t : RemoteStatus) (c d : Option Conclusion) : Decidable (Advances s c t d) :=
  inferInstanceAs (Decidable (_ ∧ _))

end RemoteStatus

/-- Whether a step is reported later as this one. -/
def RemoteStep.Continues (s later : RemoteStep) : Prop :=
  later.name = s.name ∧ s.status.Advances s.conclusion later.status later.conclusion

instance (s t : RemoteStep) : Decidable (s.Continues t) := inferInstanceAs (Decidable (_ ∧ _))

/-- Whether a job is reported later as this one, with its steps and perhaps further ones. -/
def RemoteJob.Continues (j later : RemoteJob) : Prop :=
  later.name = j.name ∧ j.status.Advances j.conclusion later.status later.conclusion ∧
    ∀ s ∈ j.steps, ∃ t ∈ later.steps, s.Continues t

instance (j k : RemoteJob) : Decidable (j.Continues k) :=
  inferInstanceAs (Decidable (_ ∧ _ ∧ ∀ s ∈ j.steps, ∃ t ∈ k.steps, s.Continues t))

/-- Whether a later snapshot still lists every job, and perhaps further ones. -/
def RunSnapshot.ExtendedBy (s later : RunSnapshot) : Prop :=
  ∀ j ∈ s.jobs, ∃ k ∈ later.jobs, j.Continues k

instance (s t : RunSnapshot) : Decidable (s.ExtendedBy t) :=
  inferInstanceAs (Decidable (∀ j ∈ s.jobs, ∃ k ∈ t.jobs, j.Continues k))

namespace RemoteStatus.Advances

theorem trans {s t u : RemoteStatus} {c d e : Option Conclusion} (hst : s.Advances c t d)
    (htu : t.Advances d u e) : s.Advances c u e := by
  refine ⟨Nat.le_trans hst.1 htu.1, fun hs ↦ ?_⟩
  have ht : t = .completed := by
    have hrank := hst.1
    rw [hs] at hrank
    cases t <;> simp_all [rank]
  rw [htu.2 ht, hst.2 hs]

end RemoteStatus.Advances

namespace Observation

theorem leads_statusOf {s t : RemoteStatus} {c d : Option Conclusion} (h : s.Advances c t d) :
    (statusOf s c).Leads (statusOf t d) := by
  obtain ⟨hrank, hkeep⟩ := h
  have hend (c : Option Conclusion) : (Conclusion.blockStatus c).isTerminal = true ∧
      (Conclusion.blockStatus c).rank = 2 := by
    cases c with
    | none => exact ⟨rfl, rfl⟩
    | some c => cases c <;> exact ⟨rfl, rfl⟩
  cases s <;> cases t <;>
    simp_all [RemoteStatus.rank, statusOf, BlockStatus.Leads, BlockStatus.rank,
      BlockStatus.isTerminal]

end Observation

namespace RunSnapshot

variable {s t : RunSnapshot} {names : NameMap} {block : String} {o : Observation}

theorem ExtendedBy.trans {u : RunSnapshot} (hst : s.ExtendedBy t) (htu : t.ExtendedBy u) :
    s.ExtendedBy u := by
  intro j hj
  obtain ⟨k, hk, hname, hadvance, hsteps⟩ := hst j hj
  obtain ⟨l, hl, hname', hadvance', hsteps'⟩ := htu k hk
  refine ⟨l, hl, hname'.trans hname, hadvance.trans hadvance', fun a ha ↦ ?_⟩
  obtain ⟨b, hb, hab⟩ := hsteps a ha
  obtain ⟨c, hc, hbc⟩ := hsteps' b hb
  exact ⟨c, hc, hbc.1.trans hab.1, hab.2.trans hbc.2⟩

/-- Of growing listings the last one extends all others. -/
theorem ExtendedBy.of_isChain {polls : List RunSnapshot}
    (h : (polls ++ [t]).IsChain ExtendedBy) (hs : s ∈ polls) : s.ExtendedBy t := by
  have : Trans ExtendedBy ExtendedBy ExtendedBy := ⟨ExtendedBy.trans⟩
  exact (List.pairwise_append.mp (List.isChain_iff_pairwise.mp h)).2.2 s hs t
    (List.mem_singleton_self t)

/-- What is said about a block is what jobs and steps say whose names lead to it. -/
theorem mem_about : o ∈ s.about names block ↔ ∃ j ∈ s.jobs,
    names.job? j.name = some block ∧ .ofJob j = o ∨
      ∃ t ∈ j.steps, names.step? t.name = some block ∧ .ofStep j t = o := by
  have hjob (j : RemoteJob) : (block, o) ∈ Observation.inJob names j ↔
      names.job? j.name = some block ∧ .ofJob j = o ∨
        ∃ t ∈ j.steps, names.step? t.name = some block ∧ .ofStep j t = o := by
    simp only [Observation.inJob, List.mem_append, Option.mem_toList, Option.map_eq_some_iff,
      List.mem_filterMap, Prod.mk.injEq, and_left_comm, exists_eq_left]
  simp only [about, Observation.about, List.mem_map, List.mem_filter, beq_iff_eq, Prod.exists,
    and_comm, exists_eq_left, Observation.ofSnapshot, List.mem_flatMap, hjob]

/-- A later snapshot still says of a block what an earlier one has said, or what comes after it. -/
theorem ExtendedBy.about (h : s.ExtendedBy t) (ho : o ∈ s.about names block) :
    ∃ p ∈ t.about names block, o.status.Leads p.status := by
  obtain ⟨j, hj, hcase⟩ := mem_about.mp ho
  obtain ⟨k, hk, hname, hjob, hsteps⟩ := h j hj
  rcases hcase with ⟨hblock, rfl⟩ | ⟨u, hu, hblock, rfl⟩
  · exact ⟨.ofJob k, mem_about.mpr ⟨k, hk, .inl ⟨hname ▸ hblock, rfl⟩⟩,
      Observation.leads_statusOf hjob⟩
  · obtain ⟨v, hv, hstep, hadvance⟩ := hsteps u hu
    exact ⟨.ofStep k v, mem_about.mpr ⟨k, hk, .inr ⟨v, hv, hstep ▸ hblock, rfl⟩⟩,
      Observation.leads_statusOf hadvance⟩

end RunSnapshot

namespace Observation

variable {all more : List Observation}

theorem aggregate_eq_failure (h : ∃ o ∈ all, o.status = .failure) : aggregate all = .failure := by
  rw [aggregate, if_pos]
  simpa using h

/-- All that is said together has come to an end if something has failed or all has ended. -/
theorem isTerminal_aggregate : (aggregate all).isTerminal = true ↔
    (∃ o ∈ all, o.status = .failure) ∨ ∀ o ∈ all, o.status.isTerminal = true := by
  by_cases hfailed : ∃ o ∈ all, o.status = .failure
  · simp [aggregate_eq_failure hfailed, hfailed, BlockStatus.isTerminal]
  · have hnone : all.any (·.status = .failure) = false := by simpa using hfailed
    rw [aggregate, hnone, if_neg Bool.false_ne_true, or_iff_right hfailed, ← List.all_eq_true]
    split
    · next hall =>
      rw [hall, iff_true_right rfl]
      split <;> rfl
    · next hall =>
      rw [iff_false_right hall]
      split <;> simp [BlockStatus.isTerminal]

/-- Once something that is said has left the queue, so has all together. -/
theorem one_le_rank_aggregate (h : ∃ o ∈ all, o.status ≠ .pending) :
    1 ≤ (aggregate all).rank := by
  obtain ⟨o, ho, hstatus⟩ := h
  have hany : all.any (fun o ↦ o.status.isTerminal || o.status = .running) = true := by
    rw [List.any_eq_true]
    refine ⟨o, ho, ?_⟩
    cases hs : o.status <;> simp_all [BlockStatus.isTerminal]
  unfold aggregate
  split
  · simp [BlockStatus.rank]
  · split
    · split <;> simp [BlockStatus.rank]
    · simp [BlockStatus.rank]

/-- As long as nothing that is said has left the queue, neither has all together. -/
theorem aggregate_eq_pending (hne : all ≠ []) (h : ∀ o ∈ all, o.status = .pending) :
    aggregate all = .pending := by
  obtain ⟨o, ho⟩ := List.exists_mem_of_ne_nil all hne
  have hnone (p : BlockStatus → Bool) (hp : p .pending = false) :
      all.any (fun o ↦ p o.status) = false := by
    rw [List.any_eq_false]
    intro o ho
    rw [h o ho, hp]
    exact Bool.false_ne_true
  have hopen : all.all (·.status.isTerminal) = false := by
    rw [List.all_eq_false]
    exact ⟨o, ho, by rw [h o ho]; exact Bool.false_ne_true⟩
  rw [aggregate, hnone (· = .failure) rfl, hopen,
    hnone (fun t ↦ t.isTerminal || t = .running) rfl]
  rfl

/-- Only the different places at which something stands count. -/
theorem aggregate_congr (h : ∀ t, (∃ o ∈ all, o.status = t) ↔ ∃ o ∈ more, o.status = t) :
    aggregate all = aggregate more := by
  have hany (p : BlockStatus → Bool) :
      all.any (fun o ↦ p o.status) = more.any fun o ↦ p o.status := by
    rw [Bool.eq_iff_iff, List.any_eq_true, List.any_eq_true]
    constructor
    · rintro ⟨o, ho, hp⟩
      obtain ⟨m, hm, hs⟩ := (h o.status).mp ⟨o, ho, rfl⟩
      exact ⟨m, hm, hs ▸ hp⟩
    · rintro ⟨m, hm, hp⟩
      obtain ⟨o, ho, hs⟩ := (h m.status).mpr ⟨m, hm, rfl⟩
      exact ⟨o, ho, hs ▸ hp⟩
  have hall (p : BlockStatus → Bool) :
      all.all (fun o ↦ p o.status) = more.all fun o ↦ p o.status := by
    rw [List.all_eq_not_any_not, hany (!p ·), List.all_eq_not_any_not]
  rw [aggregate, aggregate, hany (· = .failure), hall (·.isTerminal), hall (· = .skipped),
    hany fun t ↦ t.isTerminal || t = .running]

end Observation

/-! ### Deciding snapshots -/

namespace RunSnapshot

variable {s t : RunSnapshot} {names : NameMap} {block : String}

/-- Whether a snapshot decides where a block stands in the end: it reports the end of the run, or
something of the block has failed, or all that it lists of the block has ended. -/
def decides (names : NameMap) (block : String) (s : RunSnapshot) : Bool :=
  s.status = .completed ||
    !(s.about names block).isEmpty && (Observation.aggregate (s.about names block)).isTerminal

/-- A block is at its end after a snapshot that decides it. -/
theorem isTerminal_move (h : s.decides names block = true) :
    (s.move names block .pending).isTerminal = true := by
  unfold move
  split
  · exact BlockStatus.isTerminal_settle _ _
  · next hrun =>
    simp only [decides, hrun, decide_false, Bool.false_or, Bool.and_eq_true,
      Bool.not_eq_true'] at h
    rw [BlockStatus.observe_pending, h.1, if_neg Bool.false_ne_true]
    exact h.2

private theorem ExtendedBy.rank_le (h : s.ExtendedBy t) (hne : s.about names block ≠ [])
    (ha : (Observation.aggregate (s.about names block)).isTerminal = false) :
    (Observation.aggregate (s.about names block)).rank ≤
      (Observation.aggregate (t.about names block)).rank := by
  by_cases hqueued : ∀ o ∈ s.about names block, o.status = .pending
  · rw [Observation.aggregate_eq_pending hne hqueued]
    exact Nat.zero_le _
  · obtain ⟨o, ho, hstatus⟩ := not_forall₂.mp hqueued
    obtain ⟨p, hp, hleads⟩ := h.about ho
    have hstarted : p.status ≠ .pending := by
      rintro hpending
      have hrank := hleads.1
      rw [hpending] at hrank
      cases hs : o.status <;> simp_all [BlockStatus.rank]
    have hlater := Observation.one_le_rank_aggregate ⟨p, hp, hstarted⟩
    have hearlier : (Observation.aggregate (s.about names block)).rank ≤ 1 := by
      cases hagg : Observation.aggregate (s.about names block) <;>
        simp_all [BlockStatus.rank, BlockStatus.isTerminal]
    omega

/-- A snapshot that does not decide a block makes no difference once a later one has come. -/
theorem ExtendedBy.move_move (h : s.ExtendedBy t) (hs : s.decides names block = false) :
    t.move names block (s.move names block .pending) = t.move names block .pending := by
  simp only [decides, Bool.or_eq_false_iff, decide_eq_false_iff_not, Bool.and_eq_false_imp,
    Bool.not_eq_true'] at hs
  have hobserve : (s.move names block .pending).observe (t.about names block) =
      BlockStatus.pending.observe (t.about names block) := by
    rw [move, if_neg hs.1, BlockStatus.observe_pending]
    cases hsome : (s.about names block).isEmpty with
    | true => rw [if_pos rfl]
    | false =>
      have hactive := hs.2 hsome
      have hne : s.about names block ≠ [] := by
        rintro hnil
        simp [hnil] at hsome
      obtain ⟨o, ho⟩ := List.exists_mem_of_ne_nil _ hne
      obtain ⟨p, hp, -⟩ := h.about ho
      have hmore : (t.about names block).isEmpty = false := by
        rw [List.isEmpty_eq_false_iff]
        exact List.ne_nil_of_mem hp
      have hrank := h.rank_le hne hactive
      rw [if_neg Bool.false_ne_true, BlockStatus.observe_pending, BlockStatus.observe, hmore,
        hactive]
      simp [Nat.not_lt.mpr hrank]
  rw [move, hobserve, move]

private theorem move_of_isTerminal_aggregate (hne : s.about names block ≠ [])
    (hend : (Observation.aggregate (s.about names block)).isTerminal = true) :
    s.move names block .pending = Observation.aggregate (s.about names block) := by
  rw [move, BlockStatus.observe_pending, List.isEmpty_eq_false_iff.mpr hne,
    if_neg Bool.false_ne_true, BlockStatus.settle_of_isTerminal hend, ite_self]

private theorem move_of_failure (h : ∃ o ∈ s.about names block, o.status = .failure) :
    s.move names block .pending = .failure := by
  have hfailed := Observation.aggregate_eq_failure h
  obtain ⟨o, ho, -⟩ := h
  rw [move_of_isTerminal_aggregate (List.ne_nil_of_mem ho) (by rw [hfailed]; rfl), hfailed]

/-- Where something of a block has failed it has failed in all later snapshots too. -/
private theorem ExtendedBy.move_eq_of_failure (h : s.ExtendedBy t)
    (hs : ∃ o ∈ s.about names block, o.status = .failure) :
    t.move names block .pending = s.move names block .pending := by
  obtain ⟨o, ho, hfailed⟩ := hs
  obtain ⟨p, hp, hleads⟩ := h.about ho
  have hkept : p.status = .failure := by
    rw [hleads.2 (by rw [hfailed]; rfl), hfailed]
  rw [move_of_failure ⟨p, hp, hkept⟩, move_of_failure ⟨o, ho, hfailed⟩]

/-- Where everything of a block has ended and nothing is added, later snapshots say the same. -/
private theorem ExtendedBy.move_eq_of_ended (h : s.ExtendedBy t)
    (hs : s.decides names block = true) (ht : t.decides names block = true)
    (hended : ∀ o ∈ s.about names block, o.status.isTerminal = true)
    (hsame : ∀ p ∈ t.about names block, ∃ o ∈ s.about names block, o.status.Leads p.status) :
    t.move names block .pending = s.move names block .pending := by
  by_cases hne : s.about names block = []
  · have hnil : t.about names block = [] := by
      rw [List.eq_nil_iff_forall_not_mem]
      intro p hp
      obtain ⟨o, ho, -⟩ := hsame p hp
      simp [hne] at ho
    simp only [decides, hne, hnil, List.isEmpty_nil, Bool.not_true, Bool.false_and, Bool.or_false,
      decide_eq_true_eq] at hs ht
    simp only [move, hs, ht, hne, hnil, if_true]
    rfl
  · have hplaces : ∀ u, (∃ p ∈ t.about names block, p.status = u) ↔
        ∃ o ∈ s.about names block, o.status = u := by
      rintro u
      constructor
      · rintro ⟨p, hp, rfl⟩
        obtain ⟨o, ho, hleads⟩ := hsame p hp
        exact ⟨o, ho, (hleads.2 (hended o ho)).symm⟩
      · rintro ⟨o, ho, rfl⟩
        obtain ⟨p, hp, hleads⟩ := h.about ho
        exact ⟨p, hp, hleads.2 (hended o ho)⟩
    have hagg := Observation.aggregate_congr hplaces
    have hend := Observation.isTerminal_aggregate.mpr (.inr hended)
    obtain ⟨o, ho⟩ := List.exists_mem_of_ne_nil _ hne
    obtain ⟨p, hp, -⟩ := h.about ho
    rw [move_of_isTerminal_aggregate (List.ne_nil_of_mem hp) (hagg ▸ hend), hagg,
      move_of_isTerminal_aggregate hne hend]

end RunSnapshot

/-! ### Following a run -/

namespace Execution

variable {e : Execution} {names : NameMap} {block : String} {polls : List RunSnapshot}
variable {d last : RunSnapshot}

/-- The execution after several snapshots. -/
def follow (e : Execution) (names : NameMap) (polls : List RunSnapshot) : Execution :=
  polls.foldl (fun e s ↦ e.reduce s names) e

/-- Several snapshots move every block forward. -/
theorem exists_leads_follow (e : Execution) (names : NameMap) (polls : List RunSnapshot)
    (block : String) : ∃ f : BlockStatus → BlockStatus, (∀ t : BlockStatus, t.Leads (f t)) ∧
      (e.follow names polls).blockStatus? block = (e.blockStatus? block).map f := by
  induction polls generalizing e with
  | nil => exact ⟨fun t ↦ t, .refl, by rw [Option.map_id']; rfl⟩
  | cons s polls ih =>
    obtain ⟨f, hf, hreduce⟩ := e.exists_leads_reduce s names block
    obtain ⟨g, hg, hfollow⟩ := ih (e.reduce s names)
    refine ⟨g ∘ f, fun t ↦ (hf t).trans (hg (f t)), ?_⟩
    rw [← Option.map_map, ← hreduce, ← hfollow]
    rfl

/-- A block that has come to its end stays there. -/
private theorem blockStatus?_follow_of_isTerminal
    (h : ∀ t, e.blockStatus? block = some t → t.isTerminal = true) :
    (e.follow names polls).blockStatus? block = e.blockStatus? block := by
  obtain ⟨f, hf, hfollow⟩ := e.exists_leads_follow names polls block
  rw [hfollow]
  cases ht : e.blockStatus? block with
  | none => rfl
  | some t => rw [Option.map_some, (hf t).2 (h t ht)]

/-- Several snapshots put a block where the first one that decides it does, if the first snapshot
of all moves the block as if it had not started. -/
private theorem blockStatus?_follow (hgrow : polls.IsChain RunSnapshot.ExtendedBy)
    (hrun : ∀ s ∈ polls, s.run = e.run) (ha : e.isTerminal = false)
    (hfirst : ∀ s ∈ polls.head?, ∀ t, e.blockStatus? block = some t →
      s.move names block t = s.move names block .pending)
    (hd : polls.find? (·.decides names block) = some d) :
    (e.follow names polls).blockStatus? block =
      (e.blockStatus? block).map fun _ ↦ d.move names block .pending := by
  -- the induction carries `hfirst` from snapshot to snapshot: one that does not decide the block
  -- leaves it where the next one moves it as if it had not started
  induction polls generalizing e with
  | nil => simp at hd
  | cons s polls ih =>
    have hs : s.run = e.run := hrun s List.mem_cons_self
    have hstep : (e.reduce s names).blockStatus? block =
        (e.blockStatus? block).map fun _ ↦ s.move names block .pending := by
      rw [blockStatus?_reduce ha hs]
      exact Option.map_congr fun t ht ↦ hfirst s rfl t ht
    have hfollow : e.follow names (s :: polls) = (e.reduce s names).follow names polls := rfl
    rw [hfollow]
    cases hdecides : s.decides names block with
    | true =>
      rw [List.find?_cons_of_pos hdecides] at hd
      rw [← Option.some.inj hd, blockStatus?_follow_of_isTerminal, hstep]
      intro t ht
      obtain ⟨-, -, rfl⟩ := Option.map_eq_some_iff.mp (hstep ▸ ht)
      exact RunSnapshot.isTerminal_move hdecides
    | false =>
      have hopen : (e.reduce s names).isTerminal = false := by
        rw [← Bool.not_eq_true, isTerminal_reduce ha hs]
        intro hcompleted
        simp [RunSnapshot.decides, hcompleted] at hdecides
      rw [List.find?_cons_of_neg (by simp [hdecides])] at hd
      rw [ih hgrow.tail (fun t ht ↦ (hrun t (List.mem_cons_of_mem _ ht)).trans run_reduce.symm)
        hopen ?_ hd, hstep, Option.map_map]
      · rfl
      · intro t ht u hu
        obtain ⟨-, -, rfl⟩ := Option.map_eq_some_iff.mp (hstep ▸ hu)
        exact (hgrow.rel_head? ht).move_move hdecides

theorem eq_pending_of_get?_start {id : String} {w : Workflow} {r : Registry} {run : Nat}
    {startedAt : Timestamp} {b : BlockState}
    (h : (start id w r run startedAt).blocks.get? block = some b) : b = .pending block := by
  obtain ⟨c, -, hc⟩ := List.mem_map.mp (Dict.mem_of_get?_ofList h)
  obtain ⟨rfl, rfl⟩ := Prod.mk.inj hc
  rfl

theorem eq_pending_of_blockStatus?_start {id : String} {w : Workflow} {r : Registry} {run : Nat}
    {startedAt : Timestamp} {t : BlockStatus}
    (h : (start id w r run startedAt).blockStatus? block = some t) : t = .pending := by
  obtain ⟨b, hb, rfl⟩ := Option.map_eq_some_iff.mp h
  rw [eq_pending_of_get?_start hb]
  rfl

/-- Where a block stands after all snapshots of a run is where the first snapshot that decides it
puts it alone. This is where the last snapshot puts it alone if it is that one, if something of the
block has failed by then, or if all of the block has ended by then and nothing of it is added. -/
theorem status_after_polls (id : String) (w : Workflow) (r : Registry) (run : Nat)
    (startedAt : Timestamp) (names : NameMap) (polls : List RunSnapshot) (last : RunSnapshot)
    (hrun : ∀ s ∈ polls ++ [last], s.run = run) (hlast : last.status = .completed)
    (hgrow : (polls ++ [last]).IsChain RunSnapshot.ExtendedBy) (block : String) :
    ∃ d, (polls ++ [last]).find? (·.decides names block) = some d ∧
      ((start id w r run startedAt).follow names (polls ++ [last])).blockStatus? block =
        ((start id w r run startedAt).reduce d names).blockStatus? block ∧
      (d = last ∨ (∃ o ∈ d.about names block, o.status = .failure) ∨
          (∀ o ∈ d.about names block, o.status.isTerminal = true) ∧
            (∀ p ∈ last.about names block, ∃ o ∈ d.about names block, o.status.Leads p.status) →
        ((start id w r run startedAt).follow names (polls ++ [last])).blockStatus? block =
          ((start id w r run startedAt).reduce last names).blockStatus? block) := by
  have ha : (start id w r run startedAt).isTerminal = false := rfl
  have hdecides : last.decides names block = true := by simp [RunSnapshot.decides, hlast]
  obtain ⟨d, hd⟩ := Option.isSome_iff_exists.mp
    (List.find?_isSome.mpr ⟨last, List.mem_concat_self, hdecides⟩)
  have hfirst : ∀ s ∈ (polls ++ [last]).head?, ∀ t,
      (start id w r run startedAt).blockStatus? block = some t →
        s.move names block t = s.move names block .pending :=
    fun s _ t ht ↦ by rw [eq_pending_of_blockStatus?_start ht]
  have hfollow := blockStatus?_follow hgrow hrun ha hfirst hd
  have halone {s : RunSnapshot} (hs : s ∈ polls ++ [last]) :
      ((start id w r run startedAt).reduce s names).blockStatus? block =
        ((start id w r run startedAt).blockStatus? block).map fun _ ↦
          s.move names block .pending := by
    rw [blockStatus?_reduce ha (hrun s hs)]
    exact Option.map_congr fun t ht ↦ by rw [eq_pending_of_blockStatus?_start ht]
  have hmem : d ∈ polls ++ [last] := List.mem_of_find?_eq_some hd
  refine ⟨d, hd, by rw [hfollow, halone hmem], fun hsettled ↦ ?_⟩
  have hmove : last.move names block .pending = d.move names block .pending := by
    by_cases hlater : d = last
    · rw [hlater]
    · have hext : d.ExtendedBy last :=
        RunSnapshot.ExtendedBy.of_isChain hgrow ((List.mem_append.mp hmem).resolve_right
          fun h ↦ hlater (List.mem_singleton.mp h))
      rcases hsettled with heq | hfailed | ⟨hended, hsame⟩
      · exact absurd heq hlater
      · exact hext.move_eq_of_failure hfailed
      · exact hext.move_eq_of_ended (List.find?_some hd) hdecides hended hsame
  rw [hfollow, halone List.mem_concat_self, hmove]

/-- A job of a matrix that has ended. -/
private def matrixJob (value : String) (conclusion : Conclusion) : RemoteJob where
  name := "control-matrix-m (" ++ value ++ ")"
  status := .completed
  conclusion := some conclusion
  startedAt := none
  completedAt := none
  link := none
  steps := [⟨"job-build-b", .completed, some conclusion, none, none⟩]

/-- A matrix of which one job has succeeded before the other one is listed. -/
private def early : RunSnapshot := ⟨42, .inProgress, none, [matrixJob "20" .success]⟩

/-- The same matrix with the other job, which has failed. -/
private def late : RunSnapshot :=
  ⟨42, .completed, some .failure, [matrixJob "20" .success, matrixJob "22" .failure]⟩

/-- A workflow that builds for every value of a matrix. -/
private def matrixBuild : Workflow :=
  { Workflow.blank "wf" "CI" with
    blocks :=
      [⟨"m", Kind.controlMatrix.tag, .origin, .empty, none⟩,
        ⟨"b", Kind.jobBuild.tag, .origin, .empty, none⟩] }

/-- The names of its steps and jobs. -/
private def matrixNames : NameMap :=
  (NameMap.empty.insertStep "job-build-b" "b").insertJob "control-matrix-m" "m"

/-- The execution that follows it. -/
private def matrixRun : Execution := start "e" matrixBuild .builtin 42 ⟨19723, 0, 0⟩

theorem status_after_two_polls :
    (∀ s ∈ [early] ++ [late], s.run = 42) ∧ late.status = .completed ∧
      ([early] ++ [late]).IsChain RunSnapshot.ExtendedBy ∧
      (matrixRun.follow matrixNames [early, late]).blockStatus? "b" =
        (matrixRun.reduce early matrixNames).blockStatus? "b" := by
  have hrun : ∀ s ∈ [early] ++ [late], s.run = 42 := by decide
  have hgrow : ([early] ++ [late]).IsChain RunSnapshot.ExtendedBy := by decide +kernel
  have hfirst : ([early] ++ [late]).find? (·.decides matrixNames "b") = some early := by
    decide +kernel
  obtain ⟨d, hd, hstatus, -⟩ := status_after_polls "e" matrixBuild .builtin 42 ⟨19723, 0, 0⟩
    matrixNames [early] late hrun rfl hgrow "b"
  obtain rfl : early = d := Option.some.inj (hfirst.symm.trans hd)
  exact ⟨hrun, rfl, hgrow, hstatus⟩

theorem status_depends_on_polls :
    (∀ s ∈ [early] ++ [late], s.run = 42) ∧ late.status = .completed ∧
      ([early] ++ [late]).IsChain RunSnapshot.ExtendedBy ∧
      (matrixRun.follow matrixNames [early, late]).blockStatus? "b" = some .success ∧
      (matrixRun.reduce late matrixNames).blockStatus? "b" = some .failure := by
  have hgrow : ([early] ++ [late]).IsChain RunSnapshot.ExtendedBy := by decide +kernel
  refine ⟨by decide, rfl, hgrow, ?_, ?_⟩ <;> decide +kernel

end Execution

end Blockflow
