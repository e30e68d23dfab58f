import Blockflow.Proofs.Pipeline.NameMap
import Blockflow.Proofs.Pipeline.Settings
import Blockflow.Proofs.Run.Reduce

/-!
# Which block a report belongs to

The names of a pipeline come back with the jobs and steps of its runs. With ids as an editor makes
them, whoever follows a run puts every report down to the block that it is about: a step to the
block that it was emitted for, and a job to the control block that opened it. Every block that a run
goes through can be followed.
-/

namespace Blockflow

open Compile

/-! ### What a name map says about a snapshot -/

namespace NameMap

variable {m : NameMap} {name id : String}

/-- The key that the name of a job stands for: the name itself, or what a matrix has put the rest
behind. -/
def jobKey? (m : NameMap) (name : String) : Option String :=
  if m.jobs.contains name then some name else (matrixKey? name).filter m.jobs.contains

theorem job?_eq_some_iff :
    m.job? name = some id ↔ ∃ key, m.jobKey? name = some key ∧ m.jobs.get? key = some id := by
  rw [job?, jobKey?, Dict.contains]
  cases hname : m.jobs.get? name with
  | some block => simp [hname]
  | none =>
    simp only [Option.isSome_none, Bool.false_eq_true, if_false, Option.bind_eq_some_iff,
      Option.filter_eq_some_iff, Dict.contains]
    constructor
    · rintro ⟨key, hkey, hid⟩
      exact ⟨key, ⟨hkey, by rw [hid]; rfl⟩, hid⟩
    · rintro ⟨key, ⟨hkey, -⟩, hid⟩
      exact ⟨key, hkey, hid⟩

theorem mem_blocks :
    id ∈ m.blocks ↔ (∃ n, m.step? n = some id) ∨ ∃ key, m.jobs.get? key = some id := by
  rw [blocks, Dict.mem_keys_ofList, List.map_map, Function.comp_def, List.map_id', List.mem_append,
    Dict.mem_values_iff, Dict.mem_values_iff]
  rfl

end NameMap

namespace Observation

variable {id : String}

private theorem about_append (all more : List (String × Observation)) :
    about id (all ++ more) = about id all ++ about id more := by
  rw [about, List.filter_append, List.map_append]
  rfl

private theorem about_flatMap {α : Type} (l : List α) (say : α → List (String × Observation)) :
    about id (l.flatMap say) = l.flatMap fun a ↦ about id (say a) := by
  rw [about, List.filter_flatMap, List.map_flatMap]
  rfl

private theorem about_toList (owner : Option String) (o : Observation) :
    about id (owner.map (·, o)).toList = if owner = some id then [o] else [] := by
  cases owner with
  | none => rfl
  | some other => by_cases h : other = id <;> simp [about, h]

private theorem about_filterMap {α : Type} (owner : α → Option String) (say : α → Observation)
    (l : List α) : about id (l.filterMap fun a ↦ (owner a).map (·, say a)) =
      (l.filter fun a ↦ owner a = some id).map say := by
  induction l with
  | nil => rfl
  | cons a l ih =>
    rw [about] at ih ⊢
    cases h : owner a with
    | none => simp [h, ih]
    | some other => by_cases hid : other = id <;> simp [h, hid, ih]

end Observation

namespace RunSnapshot

/-- What a snapshot reports of the job with a key, if there is one, and of the steps with some
names. -/
def reported (s : RunSnapshot) (names : NameMap) (key : Option String) (steps : List String) :
    List Observation :=
  s.jobs.flatMap fun j ↦
    (if (names.jobKey? j.name).any (key = some ·) then [.ofJob j] else []) ++
      (j.steps.filter fun t ↦ steps.contains t.name).map (.ofStep j)

/-- What a snapshot says about a block is what it reports of a job and of steps, if their names are
those that lead to the block. -/
theorem about_eq_reported {names : NameMap} {id : String} {key : Option String}
    {steps : List String} (s : RunSnapshot)
    (hjob : ∀ name, names.job? name = some id ↔ ∃ k, names.jobKey? name = some k ∧ key = some k)
    (hstep : ∀ n, names.step? n = some id ↔ n ∈ steps) :
    s.about names id = s.reported names key steps := by
  rw [about, reported, Observation.ofSnapshot, Observation.about_flatMap]
  refine List.flatMap_congr fun j _ ↦ ?_
  have hany : (names.jobKey? j.name).any (key = some ·) = true ↔ names.job? j.name = some id := by
    rw [hjob, Option.any_eq_true]
    simp only [decide_eq_true_eq]
  have hown (t : RemoteStep) : steps.contains t.name = decide (names.step? t.name = some id) := by
    simp [hstep]
  rw [Observation.inJob, Observation.about_append, Observation.about_toList,
    Observation.about_filterMap]
  simp only [hany, hown]

end RunSnapshot

/-! ### Blocks and their names -/

theorem Block.stepName_mem_stepNames {b : Block} {k : Kind} (hk : Kind.ofTag? b.tag = some k)
    (hs : b.steps?.isSome) (ht : Registry.builtin.isTrigger k.tag = false)
    (hc : Registry.builtin.category? k.tag ≠ some .control) : b.stepName ∈ b.stepNames := by
  obtain ⟨steps, hsteps⟩ := Option.isSome_iff_exists.mp hs
  rw [stepNames, hsteps, Option.getD_some]
  simp only [steps?, hk] at hsteps
  cases k
  case triggerPush | triggerPr | triggerSchedule | triggerManual | triggerRelease =>
    exact absurd ht (by decide)
  case controlCondition | controlMatrix | controlParallel | controlWait => exact absurd rfl hc
  case utilityEnv =>
    obtain ⟨script, -, rfl⟩ := Option.map_eq_some_iff.mp hsteps
    simp [Step.run]
  all_goals
    obtain rfl := Option.some.inj hsteps
    simp [Step.use, Step.run, Step.withEnv]

theorem Ids.IsBlock.hasPlainId {b : Block} (h : IsBlock b.id) : b.HasPlainId :=
  ⟨fun hc ↦ absurd (h.mem hc) (by decide), fun hc ↦ absurd (h.mem hc) (by decide)⟩

theorem Ids.IsBlock.ne_login {id : String} (h : IsBlock id) : id ≠ "login" := by
  rintro rfl
  exact absurd (h.mem (c := 'g') (by decide)) (by decide)

namespace Workflow

variable {w : Workflow} {r : Registry} {p : Pipeline} {b c : Block} {id key n : String}

theorem exists_kind (hv : w.isValid r = true) (hb : b ∈ w.blocks) :
    ∃ k, Kind.ofTag? b.tag = some k := by
  simp only [isValid, findings, List.isEmpty_iff, List.append_eq_nil_iff] at hv
  have htype := List.flatMap_eq_nil_iff.mp hv.1.1.1.1.1 b hb
  have hcontains : r.contains b.tag = true := by
    by_contra hnot
    simp [Validation.typeFindings, hnot] at htype
  obtain ⟨d, hd⟩ := Option.isSome_iff_exists.mp hcontains
  exact ⟨d.kind, Registry.ofTag?_of_get? hd⟩

/-- The key of the job that a control block opens. -/
def openedKey? (w : Workflow) (r : Registry) (b : Block) : Option String :=
  ((w.plan r).find? fun j ↦ isControlled r j && j.opener = b).map (·.key)

/-- No block opens two jobs. -/
theorem openedKey?_eq_some_iff (ha : (StepGraph.ofWorkflow w r).Acyclic) :
    w.openedKey? r b = some key ↔
      ∃ j ∈ w.plan r, isControlled r j = true ∧ j.opener = b ∧ j.key = key := by
  have hplan := isPlanOf_plan ha
  have hids := nodup_map_id_orderedSteps ha
  rw [openedKey?, Option.map_eq_some_iff]
  constructor
  · rintro ⟨j, hj, rfl⟩
    have hopens := List.find?_some hj
    rw [Bool.and_eq_true, decide_eq_true_eq] at hopens
    exact ⟨j, List.mem_of_find?_eq_some hj, hopens.1, hopens.2, rfl⟩
  · rintro ⟨j, hj, hcontrol, rfl, rfl⟩
    have hsome : ((w.plan r).find? fun i ↦ isControlled r i && i.opener = j.opener).isSome :=
      List.find?_isSome.mpr ⟨j, hj, by simp [hcontrol]⟩
    obtain ⟨i, hi⟩ := Option.isSome_iff_exists.mp hsome
    refine ⟨i, hi, ?_⟩
    have hopener : i.opener = j.opener := by
      have hopens := List.find?_some hi
      rw [Bool.and_eq_true, decide_eq_true_eq] at hopens
      exact hopens.2
    have himem := List.mem_of_find?_eq_some hi
    have hholds {j : PlannedJob} (hj : j ∈ w.plan r) : j.holds j.opener.id = true :=
      PlannedJob.holds_iff.mpr ⟨_, hplan.opener j hj, rfl⟩
    rw [hplan.eq_of_holds hids himem hj (hholds himem) (hopener ▸ hholds hj)]

/-- What the names of a pipeline promise to the one who follows its runs. -/
structure Traceable (w : Workflow) (p : Pipeline) : Prop where
  /-- The blocks with a name are those that a new execution follows. -/
  blocks : ∀ id run time, p.names.blocks = (Execution.start id w .builtin run time).blocks.keys
  /-- They are all blocks but the triggers. -/
  steps : p.names.blocks = w.stepIds .builtin
  /-- Every step of the document, also one that only keeps a job from being empty, is named after a
  block. -/
  emitted : ∃ d, w.document? .builtin = some (d, p.names) ∧ d.toYaml.text? = some p.text ∧
    ∀ entry ∈ d.jobs, ∀ s ∈ entry.2.steps,
      ∃ b ∈ w.steps .builtin, s.name ∈ b.stepName :: b.stepNames
  /-- No name is one of two blocks. -/
  apart : ∀ b ∈ w.steps .builtin, ∀ c ∈ w.steps .builtin, ∀ n ∈ b.stepName :: b.stepNames,
    n ∈ c.stepName :: c.stepNames → b = c
  /-- The blocks with a job of their own are the control blocks. -/
  opened : ∀ b ∈ w.steps .builtin, Registry.builtin.category? b.tag = some .control ↔
    ∃ j ∈ w.plan .builtin, j.opener = b ∧ w.openedKey? .builtin b = some j.key
  /-- What a snapshot says about a block is what it reports of the steps that were emitted for the
  block, and of the job that the block has opened. -/
  about : ∀ s : RunSnapshot, ∀ b ∈ w.steps .builtin,
    s.about p.names b.id = s.reported p.names (w.openedKey? .builtin b) b.stepNames
  /-- This moves the block in an execution, and nothing else does. -/
  observed : ∀ (e : Execution) (s : RunSnapshot), ∀ b ∈ w.steps .builtin,
    (e.observed (Observation.ofSnapshot p.names s)).get? b.id = (e.blocks.get? b.id).map
      (·.observe (s.reported p.names (w.openedKey? .builtin b) b.stepNames))

section Compiled

variable (hd : w.DistinctIds) (hp : w.compile .builtin = .ok p)
include hd hp

private theorem mem_blocks_of_plan {j : PlannedJob} (hj : j ∈ w.plan .builtin) (hb : b ∈ j.blocks) :
    b ∈ w.steps .builtin :=
  have ha := acyclic_of_compile hp
  (orderedSteps_perm hd ha).mem_iff.mp ((isPlanOf_plan ha).mem_done hj hb)

private theorem isSome_steps?_of_compile (hb : b ∈ w.steps .builtin) : b.steps?.isSome := by
  have ha := acyclic_of_compile hp
  obtain ⟨-, d, hdoc, -⟩ := compile_eq_ok_iff.mp hp
  have hmade : (w.document? .builtin).isSome := by rw [hdoc]; rfl
  obtain ⟨j, hj, hbj⟩ := (isPlanOf_plan ha).exists_job ((orderedSteps_perm hd ha).mem_iff.mpr hb)
  exact (isSome_document?.mp hmade).2.1 j hj b hbj

/-- The blocks that open a controlled job are the control blocks. -/
private theorem category_eq_control_iff (hb : b ∈ w.steps .builtin) :
    Registry.builtin.category? b.tag = some .control ↔
      ∃ j ∈ w.plan .builtin, j.opener = b ∧ w.openedKey? .builtin b = some j.key := by
  have ha := acyclic_of_compile hp
  constructor
  · intro hc
    obtain ⟨j, hj, rfl⟩ := (isPlanOf_plan ha).exists_opener
      ((orderedSteps_perm hd ha).mem_iff.mpr hb) (Plan.joined?_eq_none_of_control hc)
    have hcontrol : isControlled .builtin j = true := decide_eq_true hc
    exact ⟨j, hj, rfl, (openedKey?_eq_some_iff ha).mpr ⟨j, hj, hcontrol, rfl, rfl⟩⟩
  · rintro ⟨j, -, -, hkey⟩
    obtain ⟨i, -, hcontrol, rfl, -⟩ := (openedKey?_eq_some_iff ha).mp hkey
    exact of_decide_eq_true hcontrol

private theorem job?_iff (hb : b ∈ w.steps .builtin) (name : String) :
    p.names.job? name = some b.id ↔
      ∃ k, p.names.jobKey? name = some k ∧ w.openedKey? .builtin b = some k := by
  have ha := acyclic_of_compile hp
  rw [NameMap.job?_eq_some_iff]
  refine exists_congr fun key ↦ and_congr_right fun _ ↦ ?_
  rw [jobs_get?_iff hp, openedKey?_eq_some_iff ha]
  constructor
  · rintro ⟨j, hj, hcontrol, hkey, hid⟩
    have hopener := mem_blocks_of_plan hd hp hj ((isPlanOf_plan ha).opener j hj)
    have heq := hd.eq_of_id_eq (mem_steps.mp hopener).1 (mem_steps.mp hb).1 hid
    exact ⟨j, hj, hcontrol, heq, hkey⟩
  · rintro ⟨j, hj, hcontrol, rfl, hkey⟩
    exact ⟨j, hj, hcontrol, hkey, rfl⟩

private theorem exists_emitted : ∃ d, w.document? .builtin = some (d, p.names) ∧
    d.toYaml.text? = some p.text ∧ ∀ entry ∈ d.jobs, ∀ s ∈ entry.2.steps,
      ∃ b ∈ w.steps .builtin, s.name ∈ b.stepName :: b.stepNames := by
  obtain ⟨-, d, hdoc, htext⟩ := compile_eq_ok_iff.mp hp
  refine ⟨d, hdoc, htext, ?_⟩
  refine (forall_iff_of_forall₂ (p := fun _ ↦ True) (document?_emits hdoc) ?_).mpr fun _ _ ↦ trivial
  intro j hj entry hentry
  refine iff_of_true (fun s hs ↦ ?_) trivial
  obtain ⟨lists, hlists, hsteps⟩ := hentry.steps
  rw [hsteps] at hs
  split at hs
  · obtain rfl := List.mem_singleton.mp hs
    have hopener := (isPlanOf_plan (acyclic_of_compile hp)).opener j hj
    exact ⟨j.opener, mem_blocks_of_plan hd hp hj hopener, List.mem_cons_self⟩
  · have hmap : (lists.map fun steps ↦ steps) = j.blocks.map fun b ↦ b.steps?.getD [] :=
      map_eq_map_of_mapM hlists fun b steps hb ↦ by rw [hb]; rfl
    rw [List.map_id'] at hmap
    obtain ⟨steps, hsteps, hs⟩ := List.mem_flatten.mp hs
    obtain ⟨b, hb, rfl⟩ := List.mem_map.mp (hmap ▸ hsteps)
    exact ⟨b, mem_blocks_of_plan hd hp hj hb, List.mem_cons_of_mem _ (List.mem_map_of_mem hs)⟩

variable (hids : ∀ b ∈ w.blocks, Ids.IsBlock b.id)
include hids

private theorem eq_of_mayName (hb : b ∈ w.steps .builtin) (hc : c ∈ w.steps .builtin)
    (hbn : b.MayName n) (hcn : c.MayName n) : b = c := by
  have hv := (compile_eq_ok_iff.mp hp).1
  have hbid := hids b (mem_steps.mp hb).1
  have hcid := hids c (mem_steps.mp hc).1
  obtain ⟨k, hk⟩ := exists_kind hv (mem_steps.mp hb).1
  obtain ⟨l, hl⟩ := exists_kind hv (mem_steps.mp hc).1
  apply hd.eq_of_id_eq (mem_steps.mp hb).1 (mem_steps.mp hc).1
  rcases hbn.id_eq_or hcn hk hl hbid.hasPlainId hcid.hasPlainId with hid | ⟨-, -, hid⟩ | ⟨-, -, hid⟩
  · exact hid
  · exact absurd hid hcid.ne_login
  · exact absurd hid hbid.ne_login

private theorem step?_iff (hb : b ∈ w.steps .builtin) (n : String) :
    p.names.step? n = some b.id ↔ n ∈ b.stepNames := by
  have happart : w.NamesApart .builtin := fun b hb c hc n hbn hcn ↦ congrArg Block.id <|
    eq_of_mayName hd hp hids hb hc (Block.mayName_of_mem_stepNames hbn)
      (Block.mayName_of_mem_stepNames hcn)
  constructor
  · intro h
    obtain ⟨c, hc, hn, hid⟩ := of_step?_eq_some hd hp h
    rwa [← hd.eq_of_id_eq (mem_steps.mp hc).1 (mem_steps.mp hb).1 hid]
  · exact (resolves_iff hd hp).mpr happart b hb n

private theorem mem_names_blocks : id ∈ p.names.blocks ↔ ∃ b ∈ w.steps .builtin, b.id = id := by
  have hv := (compile_eq_ok_iff.mp hp).1
  rw [NameMap.mem_blocks]
  constructor
  · rintro (⟨n, hn⟩ | ⟨key, hkey⟩)
    · obtain ⟨b, hb, -, hid⟩ := of_step?_eq_some hd hp hn
      exact ⟨b, hb, hid⟩
    · obtain ⟨j, hj, -, -, hid⟩ := (jobs_get?_iff hp).mp hkey
      have hopener := (isPlanOf_plan (acyclic_of_compile hp)).opener j hj
      exact ⟨j.opener, mem_blocks_of_plan hd hp hj hopener, hid⟩
  · rintro ⟨b, hb, rfl⟩
    by_cases hc : Registry.builtin.category? b.tag = some .control
    · obtain ⟨j, -, -, hkey⟩ := (category_eq_control_iff hd hp hb).mp hc
      obtain ⟨j, hj, hcontrol, rfl, -⟩ := (openedKey?_eq_some_iff (acyclic_of_compile hp)).mp hkey
      exact .inr ⟨j.key, (jobs_get?_iff hp).mpr ⟨j, hj, hcontrol, rfl, rfl⟩⟩
    · obtain ⟨hblock, ht⟩ := mem_steps.mp hb
      obtain ⟨k, hk⟩ := exists_kind hv hblock
      rw [isTrigger, ← Kind.tag_of_ofTag? hk] at ht
      rw [← Kind.tag_of_ofTag? hk] at hc
      have hname := Block.stepName_mem_stepNames hk (isSome_steps?_of_compile hd hp hb) ht hc
      exact .inl ⟨b.stepName, (step?_iff hd hp hids hb _).mpr hname⟩

end Compiled

/-- A workflow with ids as an editor makes them, once compiled, can be followed block by block. -/
theorem traceable_of_compile (w : Workflow) (p : Pipeline) (hd : w.DistinctIds)
    (hids : ∀ b ∈ w.blocks, Ids.IsBlock b.id) (hp : w.compile .builtin = .ok p) :
    w.Traceable p := by
  have hblocks (id : String) : id ∈ p.names.blocks ↔ ∃ b ∈ w.steps .builtin, b.id = id :=
    mem_names_blocks hd hp hids
  have habout (s : RunSnapshot) {b : Block} (hb : b ∈ w.steps .builtin) :=
    s.about_eq_reported (job?_iff hd hp hb) (step?_iff hd hp hids hb)
  refine ⟨fun id run time ↦ ?_, ?_, exists_emitted hd hp, ?_, fun b ↦ category_eq_control_iff hd hp,
    fun s b ↦ habout s, fun e s b hb ↦ ?_⟩
  · refine eq_of_pairwise_lt (Dict.pairwise_keys _) (Dict.pairwise_keys _) fun id ↦ ?_
    rw [hblocks, Execution.start, Dict.mem_keys_ofList, List.map_map, List.mem_map]
    rfl
  · refine eq_of_pairwise_lt (Dict.pairwise_keys _) (Graph.pairwise_ascending _) fun id ↦ ?_
    rw [hblocks, mem_stepIds]
  · intro b hb c hc n hbn hcn
    have hmay {b : Block} (h : n ∈ b.stepName :: b.stepNames) : b.MayName n :=
      (List.mem_cons.mp h).elim .inl Block.mayName_of_mem_stepNames
    exact eq_of_mayName hd hp hids hb hc (hmay hbn) (hmay hcn)
  · rw [Execution.observed, Dict.get?_mapEntries, ← habout s hb]
    rfl

/-- A workflow with a matrix, an image and a plain step, under ids as an editor makes them. -/
private def minted : Workflow where
  id := "wf"
  name := "CI"
  description := ""
  blocks :=
    [⟨Ids.block 1, Kind.triggerPush.tag, .origin, .empty, none⟩,
      ⟨Ids.block 2, Kind.controlMatrix.tag, .origin, .ofList [("matrix", .str "node: [20]")], none⟩,
      ⟨Ids.block 3, Kind.integrationDockerBuild.tag, .origin,
        .ofList [("registry", .str "ghcr.io"), ("imageName", .str "app")], some "Push"⟩,
      ⟨Ids.block 4, Kind.jobCheckout.tag, .origin, .empty, some "Push (login)"⟩]
  connections :=
    [⟨"1", Ids.block 1, "out", Ids.block 2, "in"⟩, ⟨"2", Ids.block 2, "out", Ids.block 3, "in"⟩,
      ⟨"3", Ids.block 1, "out", Ids.block 4, "in"⟩]

theorem traceable_minted : minted.DistinctIds ∧ (∀ b ∈ minted.blocks, Ids.IsBlock b.id) ∧
    ∃ p, minted.compile .builtin = .ok p ∧ minted.Traceable p := by
  have hd : minted.DistinctIds := by decide +kernel
  have hids : ∀ b ∈ minted.blocks, Ids.IsBlock b.id := by simp [minted, Ids.isBlock_block]
  have hok : (minted.compile .builtin).isOk = true := by decide +kernel
  obtain ⟨p, hp⟩ := exists_compile_eq_ok hok
  exact ⟨hd, hids, p, hp, traceable_of_compile minted p hd hids hp⟩

end Workflow

end Blockflow
