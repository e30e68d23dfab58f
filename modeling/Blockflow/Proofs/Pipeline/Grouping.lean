import Blockflow.Proofs.Pipeline.Shape
import Blockflow.Proofs.Pipeline.StepOrder
import Mathlib.Data.Finset.Card

/-!
# Which steps share a job

A step opens a job, or the step before it says which one it belongs to. So every step has an opener,
which can be found without going through the steps in any order. Two steps share a job exactly if
they have the same opener; and the jobs come in the order of their openers.
-/

namespace Blockflow

open Blockflow.Graph

namespace Plan

open PlannedJob

variable {g : StepGraph} {r : Registry}

theorem before_of_joined? {b : Block} {p : String} (h : joined? g r b = some p) :
    g.before b.id = [p] := by
  simp only [joined?] at h
  split at h
  · next single hsingle =>
    split at h
    · simp at h
    · rw [hsingle, Option.some.inj h]
  · simp at h

/-- The openers of jobs are the blocks that go into no job of another block, in their order. -/
theorem map_opener_ofOrder {blocks : List Block} (hd : (blocks.map (·.id)).Nodup)
    (horder : ∀ pre b post, blocks = pre ++ b :: post →
      ∀ p, Joins g.edges p b.id → p ∈ pre.map (·.id)) :
    (ofOrder g r blocks).map (·.opener) = blocks.filter fun b ↦ (joined? g r b).isNone := by
  induction blocks using List.reverseRecOn with
  | nil => rfl
  | append_singleton done b ih =>
    have hd' : (done.map (·.id)).Nodup := by
      rw [List.map_append] at hd
      exact (List.nodup_append.mp hd).1
    have horder' : ∀ pre c post, done = pre ++ c :: post →
        ∀ p, Joins g.edges p c.id → p ∈ pre.map (·.id) := by
      intro pre c post hsplit
      refine horder pre c (post ++ [b]) ?_
      rw [hsplit, List.append_assoc, List.cons_append]
    have hplan : IsPlanOf g r done (ofOrder g r done) := isPlanOf_ofOrder hd' horder'
    rw [ofOrder, List.foldl_append, List.filter_append, ← ih hd' horder']
    change (place g r (ofOrder g r done) b).map (·.opener) = _
    rw [place]
    split
    · next p hp =>
      -- whatever the block goes into a job of has been placed
      have hjoins : Joins g.edges p b.id := (joins_of_joined? hp p).mpr rfl
      obtain ⟨u, hu, hup⟩ := List.mem_map.mp (horder done b [] rfl p hjoins)
      obtain ⟨j, hj, huj⟩ := hplan.exists_job hu
      have hex : (ofOrder g r done).any (·.holds p) = true :=
        List.any_eq_true.mpr ⟨j, hj, holds_iff.mpr ⟨u, huj, hup⟩⟩
      have hkeeps : ∀ j, (append b j).opener = j.opener := fun _ ↦ rfl
      rw [if_pos hex]
      refine (Workflow.map_changeFirst hkeeps _).trans ?_
      simp [hp]
    · next hp => simp [hp, opened]

end Plan

namespace Workflow

open StepGraph Plan

variable {w : Workflow} {r : Registry} {u v b o : Block} {j : PlannedJob}

/-! ### Openers -/

/-- Whether a step opens a job: it does not have exactly one step right before it, or it is a
control block, or it is a build step and the step before it has several steps right after it. -/
def OpensJob (w : Workflow) (r : Registry) (b : Block) : Prop :=
  (¬∃! u, u ∈ w.steps r ∧ Connected w u b) ∨ r.category? b.tag = some .control ∨
    r.category? b.tag = some .job ∧ ∃ u ∈ w.steps r, Connected w u b ∧
      ∃ v ∈ w.steps r, ∃ v' ∈ w.steps r, v ≠ v' ∧ Connected w u v ∧ Connected w u v'

/-- The opener of a step: itself if it opens a job, or else the opener of the step before it. -/
inductive OpenedBy (w : Workflow) (r : Registry) : Block → Block → Prop where
  /-- The step opens a job. -/
  | itself {b : Block} (h : w.OpensJob r b) : OpenedBy w r b b
  /-- The step opens no job. -/
  | before {u b o : Block} (h : ¬w.OpensJob r b) (hu : u ∈ w.steps r) (hub : Connected w u b)
    (ho : OpenedBy w r u o) : OpenedBy w r b o

/-- No step has two openers. -/
theorem OpenedBy.eq {o' : Block} (h : OpenedBy w r b o) (h' : OpenedBy w r b o') : o = o' := by
  induction h with
  | itself hb =>
    cases h' with
    | itself => rfl
    | before hno => exact absurd hb hno
  | @before u b o hno hu hub _ ih =>
    cases h' with
    | itself hb => exact absurd hb hno
    | @before u' _ _ _ hu' hub' ho' =>
      have hsingle : ∃! u, u ∈ w.steps r ∧ Connected w u b :=
        not_not.mp fun hmany ↦ hno (.inl hmany)
      rw [hsingle.unique ⟨hu', hub'⟩ ⟨hu, hub⟩] at ho'
      exact ih ho'

theorem mem_before_iff (hb : b ∈ w.steps r) {p : String} :
    p ∈ (ofWorkflow w r).before b.id ↔ ∃ u ∈ w.steps r, u.id = p ∧ Connected w u b := by
  rw [mem_before, joins_ofWorkflow]
  constructor
  · rintro ⟨hp, -, hub⟩
    obtain ⟨u, hu, rfl⟩ := mem_stepIds.mp hp
    exact ⟨u, hu, rfl, hub⟩
  · rintro ⟨u, hu, rfl, hub⟩
    exact ⟨mem_stepIds.mpr ⟨u, hu, rfl⟩, mem_stepIds.mpr ⟨b, hb, rfl⟩, hub⟩

theorem mem_after_iff (hu : u ∈ w.steps r) {s : String} :
    s ∈ (ofWorkflow w r).after u.id ↔ ∃ v ∈ w.steps r, v.id = s ∧ Connected w u v := by
  rw [mem_after, joins_ofWorkflow]
  constructor
  · rintro ⟨-, hs, huv⟩
    obtain ⟨v, hv, rfl⟩ := mem_stepIds.mp hs
    exact ⟨v, hv, rfl, huv⟩
  · rintro ⟨v, hv, rfl, huv⟩
    exact ⟨mem_stepIds.mpr ⟨u, hu, rfl⟩, mem_stepIds.mpr ⟨v, hv, rfl⟩, huv⟩

section Distinct

variable (hd : w.DistinctIds)
include hd

private theorem eq_of_step (hu : u ∈ w.steps r) (hv : v ∈ w.steps r) (h : u.id = v.id) : u = v :=
  hd.eq_of_id_eq (mem_steps.mp hu).1 (mem_steps.mp hv).1 h

/-- A list of what comes right before a step has one member if exactly one step does. -/
theorem before_eq_singleton_iff (hb : b ∈ w.steps r) (hu : u ∈ w.steps r) :
    (ofWorkflow w r).before b.id = [u.id] ↔
      ∀ v, v ∈ w.steps r ∧ Connected w v b ↔ v = u := by
  constructor
  · intro hbefore v
    have hmem {p : String} : p = u.id ↔ ∃ u ∈ w.steps r, u.id = p ∧ Connected w u b := by
      rw [← mem_before_iff hb, hbefore, List.mem_singleton]
    constructor
    · rintro ⟨hv, hvb⟩
      exact eq_of_step hd hv hu (hmem.mpr ⟨v, hv, rfl, hvb⟩)
    · rintro rfl
      obtain ⟨u', hu', hid, hub⟩ := hmem.mp rfl
      exact ⟨hu, eq_of_step hd hu' hu hid ▸ hub⟩
  · intro honly
    refine eq_of_pairwise_lt (pairwise_ascending _) (List.pairwise_singleton _ _) fun p ↦ ?_
    rw [mem_before_iff hb, List.mem_singleton]
    constructor
    · rintro ⟨v, hv, rfl, hvb⟩
      rw [(honly v).mp ⟨hv, hvb⟩]
    · rintro rfl
      exact ⟨u, hu, rfl, ((honly u).mpr rfl).2⟩

/-- A list of what comes right after a step has several members if several steps do. -/
theorem one_lt_length_after_iff (hu : u ∈ w.steps r) :
    1 < ((ofWorkflow w r).after u.id).length ↔
      ∃ v ∈ w.steps r, ∃ v' ∈ w.steps r, v ≠ v' ∧ Connected w u v ∧ Connected w u v' := by
  have hnodup : ((ofWorkflow w r).after u.id).Nodup := nodup_ascending _
  rw [← List.toFinset_card_of_nodup hnodup, Finset.one_lt_card]
  simp only [List.mem_toFinset, mem_after_iff hu]
  constructor
  · rintro ⟨_, ⟨v, hv, rfl, huv⟩, _, ⟨v', hv', rfl, huv'⟩, hne⟩
    exact ⟨v, hv, v', hv', fun heq ↦ hne (congrArg _ heq), huv, huv'⟩
  · rintro ⟨v, hv, v', hv', hne, huv, huv'⟩
    exact ⟨v.id, ⟨v, hv, rfl, huv⟩, v'.id, ⟨v', hv', rfl, huv'⟩,
      fun heq ↦ hne (eq_of_step hd hv hv' heq)⟩

/-- A step goes into the job of the only step right before it, unless it opens a job. -/
theorem joined?_eq_some_iff (hb : b ∈ w.steps r) (hu : u ∈ w.steps r) :
    joined? (ofWorkflow w r) r b = some u.id ↔ ¬w.OpensJob r b ∧ Connected w u b := by
  rw [OpensJob, not_or, not_or, not_not]
  by_cases hbefore : (ofWorkflow w r).before b.id = [u.id]
  · have honly := (before_eq_singleton_iff hd hb hu).mp hbefore
    have hub : Connected w u b := ((honly u).mpr rfl).2
    have hsingle : ∃! u, u ∈ w.steps r ∧ Connected w u b :=
      ⟨u, (honly u).mpr rfl, fun v hv ↦ (honly v).mp hv⟩
    have hforks : (∃ u ∈ w.steps r, Connected w u b ∧ ∃ v ∈ w.steps r, ∃ v' ∈ w.steps r,
        v ≠ v' ∧ Connected w u v ∧ Connected w u v') ↔
          1 < ((ofWorkflow w r).after u.id).length := by
      rw [one_lt_length_after_iff hd hu]
      constructor
      · rintro ⟨u', hu', hub', hmore⟩
        rwa [(honly u').mp ⟨hu', hub'⟩] at hmore
      · exact fun hmore ↦ ⟨u, hu, hub, hmore⟩
    rw [joined?, hbefore, hforks]
    simp [hub, hsingle]
  · refine iff_of_false (fun hjoined ↦ hbefore (before_of_joined? hjoined)) ?_
    rintro ⟨⟨hsingle, -⟩, hub⟩
    rw [before_eq_singleton_iff hd hb hu] at hbefore
    refine hbefore fun v ↦ ⟨fun hv ↦ hsingle.unique hv ⟨hu, hub⟩, ?_⟩
    rintro rfl
    exact ⟨hu, hub⟩

theorem joined?_eq_none_iff (hb : b ∈ w.steps r) :
    joined? (ofWorkflow w r) r b = none ↔ w.OpensJob r b := by
  constructor
  · intro hnone
    by_contra hopens
    obtain ⟨u, ⟨hu, hub⟩, -⟩ : ∃! u, u ∈ w.steps r ∧ Connected w u b :=
      not_not.mp fun hmany ↦ hopens (.inl hmany)
    simp [(joined?_eq_some_iff hd hb hu).mpr ⟨hopens, hub⟩] at hnone
  · intro hopens
    rw [Option.eq_none_iff_forall_ne_some]
    intro p hp
    have hmem : p ∈ (ofWorkflow w r).before b.id := by
      rw [before_of_joined? hp]
      exact List.mem_singleton_self p
    obtain ⟨u, hu, rfl, -⟩ := (mem_before_iff hb).mp hmem
    exact ((joined?_eq_some_iff hd hb hu).mp hp).1 hopens

end Distinct

/-! ### Jobs -/

/-- What the jobs of a workflow have to do with the openers of its steps. -/
structure GroupedByOpener (w : Workflow) (r : Registry) (jobs : List PlannedJob) : Prop where
  /-- Every step has exactly one opener. -/
  opened : ∀ b ∈ w.steps r, ∃! o, OpenedBy w r b o
  /-- Two steps share a job exactly if they have the same opener. -/
  together : ∀ u ∈ w.steps r, ∀ v ∈ w.steps r,
    (∃ j ∈ jobs, u ∈ j.blocks ∧ v ∈ j.blocks) ↔ ∃ o, OpenedBy w r u o ∧ OpenedBy w r v o
  /-- A job says which block is the opener of all its steps. -/
  opener : ∀ j ∈ jobs, ∀ b ∈ j.blocks, OpenedBy w r b j.opener
  /-- The jobs come in the order of their openers. -/
  order : (jobs.map (·.opener)).Sublist (w.orderedSteps r)
  /-- A control block opens a job, and stands in no other. -/
  control : ∀ b ∈ w.steps r, r.category? b.tag = some .control →
    ∃ j ∈ jobs, j.opener = b ∧ ∀ i ∈ jobs, b ∈ i.blocks → i = j

/-- Whether a job is run several times as a block says: for the values of the matrix that it stores
if it is a matrix block, where one failure ends all unless it says otherwise, and else once. -/
def RepeatedBy (b : Block) : Option Strategy → Prop
  | none => b.tag ≠ Kind.controlMatrix.tag
  | some s => b.tag = Kind.controlMatrix.tag ∧
      Yaml.read? ((b.trimmed? "matrix").getD "") = some s.matrix ∧
      (s.failFast = false ↔ b.config.get? "failFast" = some (.bool false))

/-- Whether a job of the document is run under the condition that the opener of the planned job says
and as often as it says. -/
structure Steers (j : PlannedJob) (entry : String × Job) : Prop where
  /-- The entry stands under the key of the job. -/
  key : entry.1 = j.key
  /-- It has the condition that the opener stores if this is a condition block, and else none. -/
  condition : entry.2.condition =
    if j.opener.tag = Kind.controlCondition.tag then j.opener.trimmed? "condition" else none
  /-- It is run several times as the opener says. -/
  strategy : RepeatedBy j.opener entry.2.strategy
  /-- The condition is written into the document. -/
  condition_written : entry.2.toYaml.under? "if" = entry.2.condition.map .str
  /-- How often it is run is written into the document. -/
  strategy_written : entry.2.toYaml.under? "strategy" = entry.2.strategy.map fun s ↦
    .map [(.str "matrix", s.matrix), (.str "fail-fast", .bool s.failFast)]

/-- Jobs with the same opener are the same job. -/
theorem eq_of_opener_eq (ha : (ofWorkflow w r).Acyclic) {i : PlannedJob} (hi : i ∈ w.plan r)
    (hj : j ∈ w.plan r) (h : i.opener = j.opener) : i = j := by
  apply eq_of_opener_id_eq ha hi hj
  rw [h]

section Planned

variable (hd : w.DistinctIds) (ha : (ofWorkflow w r).Acyclic)
include hd ha

private theorem mem_steps_of_mem_blocks (hj : j ∈ w.plan r) (hb : b ∈ j.blocks) : b ∈ w.steps r :=
  (orderedSteps_perm hd ha).mem_iff.mp ((isPlanOf_plan ha).mem_done hj hb)

/-- The opener of a job is the opener of all its steps. -/
theorem openedBy_opener (hj : j ∈ w.plan r) (hb : b ∈ j.blocks) : OpenedBy w r b j.opener := by
  have hplan := isPlanOf_plan ha
  have hnodup : j.blocks.Nodup := by
    have hall := (hplan.perm.trans (orderedSteps_perm hd ha)).nodup_iff.mpr (.of_map _ (hd.steps r))
    exact (List.nodup_flatMap.mp hall).1 j hj
  -- a step follows one that stands before it in the job
  induction hn : j.blocks.idxOf b using Nat.strongRecOn generalizing b with
  | ind n ih =>
  have hstep : b ∈ w.steps r := mem_steps_of_mem_blocks hd ha hj hb
  rcases hplan.follows j hj b hb with rfl | ⟨u, hu, hjoined, hsub⟩
  · exact .itself ((joined?_eq_none_iff hd hstep).mp (hplan.opens j hj))
  · have hustep : u ∈ w.steps r := mem_steps_of_mem_blocks hd ha hj hu
    obtain ⟨hopens, hub⟩ := (joined?_eq_some_iff hd hstep hustep).mp hjoined
    exact .before hopens hustep hub (ih _ (hn ▸ idxOf_lt_of_sublist hnodup hsub) hu rfl)

theorem groupedByOpener_plan : GroupedByOpener w r (w.plan r) := by
  have hplan := isPlanOf_plan ha
  have hjob {b : Block} (hb : b ∈ w.steps r) : ∃ j ∈ w.plan r, b ∈ j.blocks :=
    hplan.exists_job ((orderedSteps_perm hd ha).mem_iff.mpr hb)
  refine ⟨fun b hb ↦ ?_, fun u hu v hv ↦ ⟨?_, ?_⟩, fun j hj b ↦ openedBy_opener hd ha hj, ?_,
    fun b hb hcontrol ↦ ?_⟩
  · obtain ⟨j, hj, hbj⟩ := hjob hb
    have hopened := openedBy_opener hd ha hj hbj
    exact ⟨j.opener, hopened, fun o ho ↦ ho.eq hopened⟩
  · rintro ⟨j, hj, huj, hvj⟩
    exact ⟨j.opener, openedBy_opener hd ha hj huj, openedBy_opener hd ha hj hvj⟩
  · rintro ⟨o, huo, hvo⟩
    obtain ⟨i, hi, hui⟩ := hjob hu
    obtain ⟨j, hj, hvj⟩ := hjob hv
    have hi' : i.opener = o := (openedBy_opener hd ha hi hui).eq huo
    have hj' : j.opener = o := (openedBy_opener hd ha hj hvj).eq hvo
    obtain rfl : i = j := eq_of_opener_eq ha hi hj (hi'.trans hj'.symm)
    exact ⟨i, hi, hui, hvj⟩
  · have hopeners : (w.plan r).map (·.opener) = _ := map_opener_ofOrder
      (nodup_map_id_orderedSteps ha) fun _ _ _ hsplit _ hp ↦ mem_of_orderedSteps_eq ha hsplit hp
    rw [hopeners]
    exact List.filter_sublist
  · obtain ⟨j, hj, rfl⟩ := hplan.exists_opener ((orderedSteps_perm hd ha).mem_iff.mpr hb)
      (joined?_eq_none_of_control hcontrol)
    refine ⟨j, hj, rfl, fun i hi hmem ↦ eq_of_opener_eq ha hi hj ?_⟩
    have hself : OpenedBy w r j.opener j.opener := openedBy_opener hd ha hj (hplan.opener j hj)
    exact (openedBy_opener hd ha hi hmem).eq hself

end Planned

/-! ### The document -/

private theorem repeatedBy_of_strategy? {b : Block} {s : Option Strategy}
    (h : Compile.strategy? b = some s) : RepeatedBy b s := by
  unfold Compile.strategy? at h
  split at h
  · next hk =>
    obtain ⟨matrix, hread, rfl⟩ := Option.map_eq_some_iff.mp h
    rw [Block.filled?_eq_trimmed?] at hread
    refine ⟨Kind.ofTag?_eq_some_iff.mp hk, hread, ?_⟩
    rw [Block.flagOf, Block.flag?]
    cases b.config.get? "failFast" with
    | none => simp
    | some v => cases v <;> simp [Json.bool?]
  · next hk =>
    obtain rfl := Option.some.inj h
    exact fun htag ↦ hk (Kind.ofTag?_eq_some_iff.mpr htag)

private theorem condition?_eq (b : Block) : Compile.condition? b =
    if b.tag = Kind.controlCondition.tag then b.trimmed? "condition" else none := by
  simp only [Compile.condition?, Block.filled?_eq_trimmed?, Kind.ofTag?_eq_some_iff]

private theorem steers_of_job? {f : Compile.FilledJob} {entry : String × Job}
    (hf : Compile.fill? j = some f) (h : Compile.job? r f = some entry) : Steers j entry := by
  obtain ⟨rfl, -⟩ := Compile.of_fill?_eq_some hf
  simp only [Compile.job?, Option.bind_eq_bind, Option.pure_def, Option.bind_eq_some_iff,
    Option.some.injEq] at h
  obtain ⟨strategy, hstrategy, rfl⟩ := h
  exact ⟨rfl, condition?_eq _, repeatedBy_of_strategy? hstrategy, Job.under?_if _,
    Job.under?_strategy _⟩

/-- The jobs of a document are steered by the openers of the planned ones. -/
theorem document?_steers {d : Document} {names : NameMap} (h : w.document? r = some (d, names)) :
    List.Forall₂ Steers (w.plan r) d.jobs := by
  simp only [document?, Option.bind_eq_bind, Option.pure_def, Option.bind_eq_some_iff,
    Option.some.injEq, Prod.mk.injEq] at h
  obtain ⟨events, -, filled, hfilled, jobs, hjobs, rfl, -⟩ := h
  rw [mapM_eq_some_iff] at hfilled hjobs
  refine List.forall₂_iff_get.mpr ⟨hfilled.length_eq.trans hjobs.length_eq, fun i hp hj ↦ ?_⟩
  have hf : i < filled.length := hfilled.length_eq ▸ hp
  exact steers_of_job? (hfilled.get hp hf) (hjobs.get hf hj)

/-- The steps of a workflow without problems are grouped into jobs by their openers, which can be
found without going through the steps in order; and a job of the document is run under the condition
and as often as its opener says. -/
theorem plan_groupedByOpener (w : Workflow) (r : Registry) (hd : w.DistinctIds)
    (hv : w.isValid r = true) :
    GroupedByOpener w r (w.plan r) ∧
      ∀ d names, w.document? r = some (d, names) → List.Forall₂ Steers (w.plan r) d.jobs :=
  ⟨groupedByOpener_plan hd (acyclic_of_isValid hv), fun _ _ ↦ document?_steers⟩

/-- A workflow with a condition between two build steps, the second of which forks, and a matrix. -/
private def guarded : Workflow where
  id := "wf"
  name := "CI"
  description := ""
  blocks := [("t", Kind.triggerPush, "branches", "main"), ("b", .jobBuild, "command", "make"),
    ("c", .controlCondition, "condition", " success() "), ("d", .jobTest, "command", "make test"),
    ("e", .jobLint, "command", "make lint"), ("f", .jobTest, "command", "make check"),
    ("m", .controlMatrix, "matrix", " node: [20] ")].map
      fun b ↦ ⟨b.1, b.2.1.tag, .origin, .ofList [(b.2.2.1, .str b.2.2.2)], none⟩
  connections := [("1", "t", "b"), ("2", "b", "c"), ("3", "c", "d"), ("4", "d", "e"),
    ("5", "d", "f"), ("6", "f", "m")].map fun c ↦ ⟨c.1, c.2.1, "out", c.2.2, "in"⟩

theorem plan_groupedByOpener_guarded : guarded.DistinctIds ∧ guarded.isValid .builtin = true ∧
    ((guarded.plan .builtin).map fun j ↦ (j.opener.id, j.blocks.map (·.id))) =
      [("b", ["b"]), ("c", ["c", "d"]), ("e", ["e"]), ("f", ["f"]), ("m", ["m"])] ∧
    GroupedByOpener guarded .builtin (guarded.plan .builtin) ∧
    ∃ d names, guarded.document? .builtin = some (d, names) ∧
      List.Forall₂ Steers (guarded.plan .builtin) d.jobs ∧
      (d.jobs.map fun j ↦ (j.2.condition, j.2.strategy.bind (·.matrix.text?))) =
        [(none, none), (some "success()", none), (none, none), (none, none),
          (none, some "node:\n- 20\n")] := by
  have hd : guarded.DistinctIds := by decide +kernel
  have hv : guarded.isValid .builtin = true := by decide +kernel
  have hsteered : (guarded.document? .builtin).map
      (fun d ↦ d.1.jobs.map fun j ↦ (j.2.condition, j.2.strategy.bind (·.matrix.text?))) =
        some [(none, none), (some "success()", none), (none, none), (none, none),
          (none, some "node:\n- 20\n")] := by decide +kernel
  obtain ⟨⟨d, names⟩, hdoc, hjobs⟩ := Option.map_eq_some_iff.mp hsteered
  obtain ⟨hgrouped, hsteers⟩ := plan_groupedByOpener guarded .builtin hd hv
  exact ⟨hd, hv, by decide +kernel, hgrouped, d, names, hdoc, hsteers d names hdoc, hjobs⟩

end Workflow

end Blockflow
