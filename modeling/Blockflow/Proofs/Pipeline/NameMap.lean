import Blockflow.Proofs.Pipeline.Jobs
import Blockflow.Proofs.Pipeline.StepNames

/-!
# What a name map leads to

A name map is made from the blocks of all planned jobs and from the keys of those jobs that control
blocks open. It leads from the names of all steps back to their blocks exactly if no two blocks
share a name. With ids that can be read off, they do only where the login of one block is named as
the step of another one.
-/

namespace Blockflow

open Compile

namespace Compile

variable {r : Registry} {j : PlannedJob} {f : FilledJob}

/-- The steps of a filled job stand under their names, beside the ids of their blocks. -/
theorem names_of_fill? (h : fill? j = some f) : f.steps.map (fun s ↦ (s.2.name, s.1)) =
    j.blocks.flatMap fun b ↦ b.stepNames.map (·, b.id) := by
  simp only [fill?, Option.bind_eq_bind, Option.pure_def, Option.bind_eq_some_iff,
    Option.some.injEq] at h
  obtain ⟨filled, hfilled, rfl⟩ := h
  have hblocks : filled.map (List.map fun s ↦ (s.2.name, s.1)) =
      j.blocks.map fun b ↦ b.stepNames.map (·, b.id) := by
    refine map_eq_map_of_mapM hfilled fun b steps hb ↦ ?_
    obtain ⟨own, hown, hsteps⟩ := Option.bind_eq_some_iff.mp hb
    rw [← Option.some.inj hsteps, Block.stepNames, hown, Option.getD_some, List.map_map,
      List.map_map]
    rfl
  rw [List.map_flatten, hblocks, List.flatMap_def]

private theorem foldl_insertStep (l : List (String × Step)) (m : NameMap) :
    l.foldl (fun m s ↦ m.insertStep s.2.name s.1) m =
      ⟨(l.map fun s ↦ (s.2.name, s.1)).foldl (fun d e ↦ d.insert e.1 e.2) m.steps, m.jobs⟩ := by
  induction l generalizing m with
  | nil => rfl
  | cons s l ih => rw [List.foldl_cons, ih, List.map_cons, List.foldl_cons, NameMap.insertStep]

/-- The names of a list of jobs are put in from the first job on. -/
private theorem foldl_addNames (filled : List FilledJob) (m : NameMap) :
    filled.foldl (addNames r) m =
      ⟨(filled.flatMap fun f ↦ f.steps.map fun s ↦ (s.2.name, s.1)).foldl
          (fun d e ↦ d.insert e.1 e.2) m.steps,
        (((filled.map (·.plan)).filter (isControlled r)).map fun j ↦ (j.key, j.opener.id)).foldl
          (fun d e ↦ d.insert e.1 e.2) m.jobs⟩ := by
  induction filled generalizing m with
  | nil => rfl
  | cons f filled ih =>
    rw [List.foldl_cons, ih, addNames, foldl_insertStep, List.flatMap_cons, List.foldl_append,
      List.map_cons]
    by_cases hf : isControlled r f.plan = true
    · rw [if_pos hf, List.filter_cons_of_pos hf, List.map_cons, List.foldl_cons, NameMap.insertJob]
    · rw [if_neg hf, List.filter_cons_of_neg hf]

end Compile

namespace Workflow

variable {w : Workflow} {r : Registry} {p : Pipeline} {d : Document} {names : NameMap}
variable {n id key : String} {b : Block}

/-- The names of all steps, beside the ids of their blocks. -/
def stepEntries (w : Workflow) (r : Registry) : List (String × String) :=
  ((w.plan r).flatMap (·.blocks)).flatMap fun b ↦ b.stepNames.map (·, b.id)

/-- The keys of the jobs that control blocks open, beside the ids of these blocks. -/
def jobEntries (w : Workflow) (r : Registry) : List (String × String) :=
  ((w.plan r).filter (isControlled r)).map fun j ↦ (j.key, j.opener.id)

/-- The name map of a document is made from the names of its steps and the keys of its jobs. -/
theorem document?_names (h : w.document? r = some (d, names)) :
    names = ⟨.ofList (w.stepEntries r), .ofList (w.jobEntries r)⟩ := by
  simp only [document?, Option.bind_eq_bind, Option.pure_def, Option.bind_eq_some_iff,
    Option.some.injEq, Prod.mk.injEq] at h
  obtain ⟨events, -, filled, hfilled, jobs, -, -, rfl⟩ := h
  have hsteps : (filled.flatMap fun f ↦ f.steps.map fun s ↦ (s.2.name, s.1)) =
      w.stepEntries r := by
    rw [List.flatMap_def, map_eq_map_of_mapM hfilled fun _ _ ↦ names_of_fill?, ← List.flatMap_def,
      stepEntries, List.flatMap_assoc]
  rw [foldl_addNames, hsteps, map_plan_of_mapM_fill? hfilled]
  rfl

theorem names_of_compile (h : w.compile r = .ok p) :
    p.names = ⟨.ofList (w.stepEntries r), .ofList (w.jobEntries r)⟩ := by
  obtain ⟨-, d, hd, -⟩ := compile_eq_ok_iff.mp h
  exact document?_names hd

theorem step?_of_compile (h : w.compile r = .ok p) (n : String) :
    p.names.step? n = (Dict.ofList (w.stepEntries r)).get? n := by
  rw [names_of_compile h]
  rfl

theorem acyclic_of_compile (h : w.compile r = .ok p) : (StepGraph.ofWorkflow w r).Acyclic :=
  acyclic_of_isValid (compile_eq_ok_iff.mp h).1

/-- Every step of the workflow has its names in the pipeline, and nothing else has. -/
theorem mem_stepEntries (hd : w.DistinctIds) (ha : (StepGraph.ofWorkflow w r).Acyclic) :
    (n, id) ∈ w.stepEntries r ↔ ∃ b ∈ w.steps r, n ∈ b.stepNames ∧ b.id = id := by
  have hperm := (isPlanOf_plan ha).perm.trans (orderedSteps_perm hd ha)
  rw [stepEntries, (hperm.flatMap_right _).mem_iff]
  simp only [List.mem_flatMap, List.mem_map, Prod.mk.injEq, ← and_assoc, exists_and_right,
    exists_eq_right]

/-! ### Steps -/

/-- Whether the names of all steps lead to the blocks that the steps come from. -/
def Resolves (w : Workflow) (r : Registry) (names : NameMap) : Prop :=
  ∀ b ∈ w.steps r, ∀ n ∈ b.stepNames, names.step? n = some b.id

instance (w : Workflow) (r : Registry) (names : NameMap) : Decidable (w.Resolves r names) :=
  inferInstanceAs (Decidable (∀ b ∈ w.steps r, ∀ n ∈ b.stepNames, names.step? n = some b.id))

/-- Whether no two blocks share the name of a step. -/
def NamesApart (w : Workflow) (r : Registry) : Prop :=
  ∀ b ∈ w.steps r, ∀ c ∈ w.steps r, ∀ n ∈ b.stepNames, n ∈ c.stepNames → b.id = c.id

instance (w : Workflow) (r : Registry) : Decidable (w.NamesApart r) :=
  inferInstanceAs (Decidable (∀ b ∈ w.steps r, ∀ c ∈ w.steps r, ∀ n ∈ b.stepNames,
    n ∈ c.stepNames → b.id = c.id))

/-- Whether every step has an id that can be read off its name. -/
def HasPlainIds (w : Workflow) (r : Registry) : Prop := ∀ b ∈ w.steps r, b.HasPlainId

instance (w : Workflow) (r : Registry) : Decidable (w.HasPlainIds r) :=
  inferInstanceAs (Decidable (∀ b ∈ w.steps r, b.HasPlainId))

/-- Whether the login of one block is named as the step of another one, which then has the purpose
of the login for its id. -/
def HasLoginClash (w : Workflow) (r : Registry) : Prop :=
  ∃ b ∈ w.steps r, ∃ c ∈ w.steps r, b.auxiliaryStepName "login" ∈ b.stepNames ∧
    c.stepName ∈ c.stepNames ∧ c.id = "login" ∧ b.auxiliaryStepName "login" = c.stepName

instance (w : Workflow) (r : Registry) : Decidable (w.HasLoginClash r) :=
  inferInstanceAs (Decidable (∃ b ∈ w.steps r, ∃ c ∈ w.steps r, _ ∧ _))

/-- The names lead back to the blocks exactly if no two blocks share one. -/
theorem resolves_iff (hd : w.DistinctIds) (hp : w.compile r = .ok p) :
    w.Resolves r p.names ↔ w.NamesApart r := by
  have hmem {n id : String} : (n, id) ∈ w.stepEntries r ↔ _ :=
    mem_stepEntries hd (acyclic_of_compile hp)
  have hentries := Dict.get?_ofList_iff (l := w.stepEntries r)
  simp only [Prod.forall, hmem] at hentries
  simp only [Resolves, step?_of_compile hp]
  constructor
  · intro h b hb c hc n hbn hcn
    refine hentries.mp ?_ n b.id ⟨b, hb, hbn, rfl⟩ n c.id ⟨c, hc, hcn, rfl⟩ rfl
    rintro n _ ⟨b, hb, hn, rfl⟩
    exact h b hb n hn
  · intro h b hb n hn
    refine hentries.mpr ?_ n b.id ⟨b, hb, hn, rfl⟩
    rintro n _ ⟨b, hb, hbn, rfl⟩ _ _ ⟨c, hc, hcn, rfl⟩ rfl
    exact h b hb c hc n hbn hcn

/-- A name leads to a block only if it is the name of one of its steps. -/
theorem of_step?_eq_some (hd : w.DistinctIds) (hp : w.compile r = .ok p)
    (h : p.names.step? n = some id) : ∃ b ∈ w.steps r, n ∈ b.stepNames ∧ b.id = id := by
  rw [step?_of_compile hp] at h
  exact (mem_stepEntries hd (acyclic_of_compile hp)).mp (Dict.mem_of_get?_ofList h)

/-- A key leads to the control block that opens the job with this key, and to nothing else. -/
theorem jobs_get?_iff (hp : w.compile r = .ok p) : p.names.jobs.get? key = some id ↔
    ∃ j ∈ w.plan r, isControlled r j = true ∧ j.key = key ∧ j.opener.id = id := by
  have hmem : (key, id) ∈ w.jobEntries r ↔
      ∃ j ∈ w.plan r, isControlled r j = true ∧ j.key = key ∧ j.opener.id = id := by
    simp only [jobEntries, List.mem_map, List.mem_filter, Prod.mk.injEq, and_assoc]
  rw [names_of_compile hp, ← hmem]
  refine ⟨Dict.mem_of_get?_ofList, fun h ↦ Dict.get?_ofList_iff.mpr ?_ _ h⟩
  intro e he f hf hkey
  obtain ⟨i, hi, rfl⟩ := List.mem_map.mp he
  obtain ⟨j, hj, rfl⟩ := List.mem_map.mp hf
  have hkeys := (isPlanOf_plan (acyclic_of_compile hp)).keys
  have heq := List.inj_on_of_nodup_map hkeys (List.mem_of_mem_filter hi)
    (List.mem_of_mem_filter hj) hkey
  rw [heq]

private theorem id_eq_of_common (hplain : w.HasPlainIds r) (hclash : ¬w.HasLoginClash r)
    {b c : Block} (hb : b ∈ w.steps r) (hc : c ∈ w.steps r) (hbn : n ∈ b.stepNames)
    (hcn : n ∈ c.stepNames) : b.id = c.id := by
  obtain ⟨k, hk, -⟩ := Block.of_mem_stepNames hbn
  obtain ⟨l, hl, -⟩ := Block.of_mem_stepNames hcn
  have hcase := (Block.mayName_of_mem_stepNames hbn).id_eq_or
    (Block.mayName_of_mem_stepNames hcn) hk hl (hplain b hb) (hplain c hc)
  rcases hcase with hid | ⟨rfl, heq, hid⟩ | ⟨rfl, heq, hid⟩
  · exact hid
  · exact absurd ⟨b, hb, c, hc, hbn, heq ▸ hcn, hid, heq⟩ hclash
  · exact absurd ⟨c, hc, b, hb, hcn, heq ▸ hbn, hid, heq⟩ hclash

/-- With ids that can be read off, only a login can be mistaken for another step. -/
theorem namesApart_iff (hd : w.DistinctIds) (hplain : w.HasPlainIds r) :
    w.NamesApart r ↔ ¬w.HasLoginClash r := by
  constructor
  · rintro h ⟨b, hb, c, hc, hbn, hcn, -, heq⟩
    have hid := h b hb c hc _ hbn (heq ▸ hcn)
    obtain rfl := hd.eq_of_id_eq (mem_steps.mp hb).1 (mem_steps.mp hc).1 hid
    exact b.auxiliaryStepName_ne "login" heq
  · exact fun h b hb c hc n ↦ id_eq_of_common hplain h hb hc

/-- The names of all steps of a compiled workflow lead back to their blocks exactly if no two blocks
share a name, and with ids that can be read off exactly if no login is named as the step of another
block. -/
theorem resolves_iff_namesApart (w : Workflow) (r : Registry) (p : Pipeline)
    (hd : w.DistinctIds) (hp : w.compile r = .ok p) :
    (w.Resolves r p.names ↔ w.NamesApart r) ∧
      (w.HasPlainIds r → (w.NamesApart r ↔ ¬w.HasLoginClash r)) :=
  ⟨resolves_iff hd hp, namesApart_iff hd⟩

/-- A trigger with two blocks behind it: one that builds an image and has the label `Push`, and one
with the given id and label. -/
private def pushing (id label : String) : Workflow where
  id := "wf"
  name := "CI"
  description := ""
  blocks :=
    [⟨"t", Kind.triggerPush.tag, .origin, .empty, none⟩,
      ⟨"d", Kind.integrationDockerBuild.tag, .origin,
        .ofList [("registry", .str "ghcr.io"), ("imageName", .str "app")], some "Push"⟩,
      ⟨id, Kind.jobCheckout.tag, .origin, .empty, some label⟩]
  connections := [⟨"1", "t", "out", "d", "in"⟩, ⟨"2", "t", "out", id, "in"⟩]

theorem resolves_pushing : (pushing "c" "Push").DistinctIds ∧
    ∃ p, (pushing "c" "Push").compile .builtin = .ok p ∧
      (pushing "c" "Push").Resolves .builtin p.names := by
  have hd : (pushing "c" "Push").DistinctIds := by decide +kernel
  have hok : ((pushing "c" "Push").compile .builtin).isOk = true := by decide +kernel
  obtain ⟨p, hp⟩ := exists_compile_eq_ok hok
  have happly := resolves_iff_namesApart (pushing "c" "Push") .builtin p hd hp
  refine ⟨hd, p, hp, happly.1.mpr ((happly.2 ?_).mpr ?_)⟩ <;> decide +kernel

/-- With the id `login` the name of the second block is the one of the first block's login. -/
theorem not_resolves_pushing : (pushing "login" "Push (d)").DistinctIds ∧
    ∃ p, (pushing "login" "Push (d)").compile .builtin = .ok p ∧
      ¬(pushing "login" "Push (d)").Resolves .builtin p.names ∧
      ¬(pushing "login" "Push (d)").NamesApart .builtin := by
  have hd : (pushing "login" "Push (d)").DistinctIds := by decide +kernel
  have hok : ((pushing "login" "Push (d)").compile .builtin).isOk = true := by decide +kernel
  have happart : ¬(pushing "login" "Push (d)").NamesApart .builtin := by decide +kernel
  obtain ⟨p, hp⟩ := exists_compile_eq_ok hok
  exact ⟨hd, p, hp, mt (resolves_iff hd hp).mp happart, happart⟩

end Workflow

end Blockflow
