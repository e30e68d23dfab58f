import Blockflow.Proofs.Pipeline.Events
import Blockflow.Proofs.Yaml.Trimming

/-!
# The YAML of settings in a document

A document uses the values that the YAML settings of a workflow stand for: as the matrices of its
jobs, the inputs of a start by hand and the variables of its scripts. Every setting is read a second
time for the document, without the blanks at its ends. Where a block scalar ends the text, this is
not the value that it stood for when the workflow was checked.
-/

namespace Blockflow

namespace Yaml

/-- The script that exports the variables in a value. -/
def exportScript (v : Yaml) : String :=
  let lines := (v.entries?.getD []).map fun e ↦ Block.exportLine e.1 e.2
  if lines.isEmpty then "echo \"No variables to export\"" else String.intercalate "\n" lines

/-- What a text that has been checked stands for where it is used. -/
structure UsedFor (s : String) (v : Yaml) : Prop where
  /-- The text is read without the blanks at its ends. -/
  used : read? (Text.trim s) = some v
  /-- The check has read it as it is. If these blanks are known to mean nothing, it was the same. -/
  checked : ∃ u, read? s = some u ∧ (TrimsCleanly s → v = u)

end Yaml

namespace Document

/-- The matrix of the job under a key. -/
def matrix? (d : Document) (key : String) : Option Yaml :=
  ((d.jobs.lookup key).bind (·.strategy)).map (·.matrix)

/-- Whether a document uses the YAML settings of the blocks of a workflow, where it is said which
values a text may stand for. Of all steps with one id the last is meant. -/
structure Uses (d : Document) (w : Workflow) (means : String → Yaml → Prop) : Prop where
  /-- A matrix is that of the job that the block opens. -/
  matrices : ∀ b, w.lastStep? .builtin b.id = some b →
    Kind.ofTag? b.tag = some .controlMatrix → ∃ s v, b.text? "matrix" = some s ∧ means s v ∧
      ∃ j ∈ w.plan .builtin, j.opener = b ∧ d.matrix? j.key = some v
  /-- The inputs of a manual trigger, if there is no other one, are those of a start by hand. -/
  inputs : ∀ b, w.triggersOf .builtin .triggerManual = [b] → ∀ s, b.text? "inputs" = some s →
    Text.allBlank s = false → ∃ v, means s v ∧ d.events.inputs? = some v
  /-- Variables are exported by a step of the block. -/
  exports : ∀ b, w.lastStep? .builtin b.id = some b →
    Kind.ofTag? b.tag = some .utilityEnv → ∀ s, b.text? "variables" = some s →
    Text.allBlank s = false → ∃ v, means s v ∧
      ∃ entry ∈ d.jobs, .run b.stepName v.exportScript ∈ entry.2.steps

/-- The job under a key is the one that stands under it, if keys do not repeat. -/
theorem matrix?_of_mem {d : Document} {entry : String × Job} (hd : (d.jobs.map (·.1)).Nodup)
    (h : entry ∈ d.jobs) : d.matrix? entry.1 = entry.2.strategy.map (·.matrix) := by
  obtain ⟨before, after, hsplit⟩ := List.append_of_mem h
  have hlookup : d.jobs.lookup entry.1 = some entry.2 := by
    refine List.lookup_eq_some_iff.mpr ⟨before, after, hsplit, ?_⟩
    intro e he
    rw [hsplit, List.map_append, List.nodup_append] at hd
    have hne := hd.2.2 e.1 (List.mem_map_of_mem he) entry.1 List.mem_cons_self
    exact bne_iff_ne.mpr hne.symm
  rw [matrix?, hlookup, Option.bind_some]

end Document

open Compile Plan

namespace Block

variable {b : Block} {key s t : String}

theorem filled?_of_text? (hs : b.text? key = some s) (hblank : Text.allBlank s = false) :
    b.filled? key = some (Text.trim s) := by
  rw [filled?, hs, Option.bind_some, Text.nonBlank?_eq_some]
  exact ⟨hblank, rfl⟩

/-- The step of a block that exports variables exports those of its text. -/
theorem exists_read?_of_steps? {steps : List Step} (hk : Kind.ofTag? b.tag = some .utilityEnv)
    (ht : b.filled? "variables" = some t) (h : b.steps? = some steps) :
    ∃ v, Yaml.read? t = some v ∧ steps = [.run b.stepName v.exportScript] := by
  simp only [steps?, hk, stepsOfKind?, exportScript?, ht] at h
  cases hread : Yaml.read? t with
  | none => simp [hread] at h
  | some v =>
    refine ⟨v, rfl, ?_⟩
    simp only [hread, Option.map_some, Option.bind_eq_bind, Option.bind_some, Option.pure_def,
      Option.some.injEq] at h
    exact h.symm

end Block

/-- What an opener with a matrix says about its job is what the text of the matrix stands for. -/
theorem Compile.exists_read?_of_strategy? {b : Block} {t : String} {s : Option Strategy}
    (hk : Kind.ofTag? b.tag = some .controlMatrix) (ht : b.filled? "matrix" = some t)
    (h : strategy? b = some s) : ∃ v, Yaml.read? t = some v ∧ s.map (·.matrix) = some v := by
  rw [strategy?, if_pos hk, ht, Option.getD_some, Option.map_eq_some_iff] at h
  obtain ⟨v, hv, rfl⟩ := h
  exact ⟨v, hv, rfl⟩

namespace Workflow

variable {w : Workflow} {d : Document} {names : NameMap} {b : Block} {s : String}

section Valid

variable (hv : w.isValid .builtin = true) (hd : w.document? .builtin = some (d, names))
include hv hd

private theorem nodup_jobKeys : (d.jobs.map (·.1)).Nodup := by
  rw [map_key_of_emits (document?_emits hd)]
  exact (isPlanOf_plan (acyclic_of_isValid hv)).keys

omit hd in
/-- What is read for the document has been read before. -/
private theorem usedFor {k : Kind} {key : String} {v : Yaml} (hb : b ∈ w.blocks)
    (hk : Kind.ofTag? b.tag = some k) (hkey : k.yamlKey? = some key) (hs : b.text? key = some s)
    (hblank : Text.allBlank s = false) (hread : Yaml.read? (Text.trim s) = some v) :
    Yaml.UsedFor s v := by
  have hchecked := ((yaml_of_isValid hv hb hk hkey).1 s hs).resolve_left (by simp [hblank])
  obtain ⟨u, hu⟩ := Option.isSome_iff_exists.mp hchecked
  refine ⟨hread, u, hu, fun htrims ↦ ?_⟩
  rw [Yaml.read?_trim htrims hblank hu] at hread
  exact (Option.some.inj hread).symm

private theorem exists_matrix? (hb : w.lastStep? .builtin b.id = some b)
    (hk : Kind.ofTag? b.tag = some .controlMatrix) :
    ∃ s v, b.text? "matrix" = some s ∧ Yaml.UsedFor s v ∧
      ∃ j ∈ w.plan .builtin, j.opener = b ∧ d.matrix? j.key = some v := by
  have ha := acyclic_of_isValid hv
  have hplan := isPlanOf_plan ha
  have hcontrol : Registry.builtin.category? b.tag = some .control := by
    rw [← Kind.tag_of_ofTag? hk]
    rfl
  obtain ⟨j, hj, rfl⟩ := hplan.exists_opener ((mem_orderedSteps ha).mpr hb)
    (joined?_eq_none_of_control hcontrol)
  have hmem := (mem_steps.mp (of_lastStep?_eq_some hb).1).1
  obtain ⟨s, hs, hblank⟩ := (yaml_of_isValid hv hmem hk rfl).2 rfl
  obtain ⟨entry, hentry, he⟩ := exists_of_forall₂ (document?_emits hd) hj
  obtain ⟨v, hread, hmatrix⟩ :=
    exists_read?_of_strategy? hk (Block.filled?_of_text? hs hblank) he.strategy
  refine ⟨s, v, hs, usedFor hv hmem hk rfl hs hblank hread, j, hj, rfl, ?_⟩
  rw [← he.key, Document.matrix?_of_mem (nodup_jobKeys hv hd) hentry, hmatrix]

private theorem exists_export (hb : w.lastStep? .builtin b.id = some b)
    (hk : Kind.ofTag? b.tag = some .utilityEnv) (hs : b.text? "variables" = some s)
    (hblank : Text.allBlank s = false) : ∃ v, Yaml.UsedFor s v ∧
      ∃ entry ∈ d.jobs, .run b.stepName v.exportScript ∈ entry.2.steps := by
  have ha := acyclic_of_isValid hv
  obtain ⟨j, hj, hbj⟩ := (isPlanOf_plan ha).exists_job ((mem_orderedSteps ha).mpr hb)
  obtain ⟨entry, hentry, he⟩ := exists_of_forall₂ (document?_emits hd) hj
  obtain ⟨lists, hlists, hsteps⟩ := he.steps
  obtain ⟨steps, hmem, hblock⟩ := exists_of_forall₂ (mapM_eq_some_iff.mp hlists) hbj
  obtain ⟨v, hread, rfl⟩ :=
    Block.exists_read?_of_steps? hk (Block.filled?_of_text? hs hblank) hblock
  have hstep : Step.run b.stepName v.exportScript ∈ lists.flatten :=
    List.mem_flatten.mpr ⟨_, hmem, List.mem_cons_self⟩
  have hblocks := (mem_steps.mp (of_lastStep?_eq_some hb).1).1
  refine ⟨v, usedFor hv hblocks hk rfl hs hblank hread, entry, hentry, ?_⟩
  rw [hsteps, if_neg (by simpa using List.ne_nil_of_mem hstep)]
  exact hstep

private theorem exists_inputs? (hsole : w.triggersOf .builtin .triggerManual = [b])
    (hs : b.text? "inputs" = some s) (hblank : Text.allBlank s = false) :
    ∃ v, Yaml.UsedFor s v ∧ d.events.inputs? = some v := by
  have hperm : ((w.sortedTriggers .builtin).filter
      fun b ↦ Kind.ofTag? b.tag = some .triggerManual).Perm
        (w.triggersOf .builtin .triggerManual) :=
    ((List.mergeSort_perm _ _).filter _).trans (List.mergeSort_perm _ _).symm
  rw [hsole, List.perm_singleton] at hperm
  have hevents := document?_events hd
  have hinputs := inputs?_of_events? hevents
  have hfilled := Block.filled?_of_text? hs hblank
  obtain ⟨hmem, hk⟩ := mem_triggersOf.mp (hsole ▸ List.mem_cons_self)
  have hreads := isSome_events?.mp (by rw [hevents]; rfl) b hmem hk
  obtain ⟨v, hread⟩ :=
    Option.isSome_iff_exists.mp ((Block.readsYaml_iff hk rfl).mp hreads _ hfilled)
  refine ⟨v, usedFor hv (mem_blocks_of_mem_triggersOf (mem_triggersOf.mpr ⟨hmem, hk⟩)) hk rfl hs
    hblank hread, ?_⟩
  rw [hinputs, hperm, List.foldl_cons, List.foldl_nil, Block.inputs?, ← Block.filled?_eq_trimmed?,
    hfilled, Option.bind_some, hread]
  rfl

private theorem uses_of_isValid : d.Uses w Yaml.UsedFor where
  matrices _ hb hk := exists_matrix? hv hd hb hk
  inputs _ hsole _ hs hblank := exists_inputs? hv hd hsole hs hblank
  exports _ hb hk _ hs hblank := exists_export hv hd hb hk hs hblank

end Valid

/-- The document of a workflow that compiles uses what the YAML settings stand for without the
blanks at their ends. -/
theorem uses_of_compile (w : Workflow) (p : Pipeline) (h : w.compile .builtin = .ok p) :
    ∃ d, w.document? .builtin = some (d, p.names) ∧ d.toYaml.text? = some p.text ∧
      d.Uses w Yaml.UsedFor := by
  obtain ⟨hv, d, hd, htext⟩ := compile_eq_ok_iff.mp h
  exact ⟨d, hd, htext, uses_of_isValid hv hd⟩

/-- A block with a matrix. -/
private def varying (matrix : String) : Block :=
  ⟨"m", Kind.controlMatrix.tag, .origin, .ofList [("matrix", .str matrix)], none⟩

/-- A workflow with a matrix, an input and a variable. -/
private def settled (matrix inputs exported : String) : Workflow where
  id := "wf"
  name := "CI"
  description := ""
  blocks :=
    [⟨"t", Kind.triggerManual.tag, .origin, .ofList [("inputs", .str inputs)], none⟩,
      varying matrix,
      ⟨"v", Kind.utilityEnv.tag, .origin, .ofList [("variables", .str exported)], none⟩]
  connections := [⟨"1", "t", "out", "m", "in"⟩, ⟨"2", "m", "out", "v", "in"⟩]

/-- A matrix, an input and a variable with empty lines before and behind them. -/
private def spaced : Workflow :=
  settled "\nnode: [20, 22]\n" "\nlevel:\n  default: 1\n" "\n\nA: b \n"

theorem uses_spaced : ∃ p, spaced.compile .builtin = .ok p ∧
    (∃ d, spaced.document? .builtin = some (d, p.names) ∧ d.toYaml.text? = some p.text ∧
      d.Uses spaced Yaml.UsedFor) ∧
    Yaml.TrimsCleanly "\nnode: [20, 22]\n" ∧
    Yaml.TrimsCleanly "\nlevel:\n  default: 1\n" ∧ Yaml.TrimsCleanly "\n\nA: b \n" := by
  have hok : (spaced.compile .builtin).isOk = true := by decide +kernel
  obtain ⟨p, hp⟩ := exists_compile_eq_ok hok
  exact ⟨p, hp, uses_of_compile spaced p hp, by decide +kernel, by decide +kernel,
    by decide +kernel⟩

/-- A matrix whose only value is a line, with the line break behind it. -/
private def lined : Workflow := settled "a: |\n  x\n" "" "A: b"

/-- The text that is the value of the only entry. -/
private def onlyText? : Option Yaml → Option String
  | some (.map [(_, .str text)]) => some text
  | _ => none

/-- The matrix of a workflow without problems is not the one that was checked. -/
theorem not_uses_lined : lined.isValid .builtin = true ∧ ∃ p d, lined.compile .builtin = .ok p ∧
    lined.document? .builtin = some (d, p.names) ∧
    ¬d.Uses lined fun s v ↦ Yaml.read? s = some v := by
  have hok : (lined.compile .builtin).isOk = true := by decide +kernel
  have hlast : lined.lastStep? .builtin "m" = some (varying "a: |\n  x\n") := by decide +kernel
  have hkey : ∀ j ∈ lined.plan .builtin, j.opener.id = "m" → j.key = "control-matrix-m" := by
    decide +kernel
  obtain ⟨p, hp⟩ := exists_compile_eq_ok hok
  obtain ⟨d, hd, -, hused⟩ := uses_of_compile lined p hp
  refine ⟨(compile_eq_ok_iff.mp hp).1, p, d, hp, hd, fun hchecked ↦ ?_⟩
  obtain ⟨s, v, hs, hread, j, hj, hopener, hv⟩ :=
    hchecked.matrices (varying "a: |\n  x\n") hlast rfl
  obtain ⟨s', v', hs', hread', j', hj', hopener', hv'⟩ :=
    hused.matrices (varying "a: |\n  x\n") hlast rfl
  obtain rfl : "a: |\n  x\n" = s := Option.some.inj hs
  obtain rfl : "a: |\n  x\n" = s' := Option.some.inj hs'
  rw [hkey j hj (by rw [hopener]; rfl)] at hv
  rw [hkey j' hj' (by rw [hopener']; rfl), hv] at hv'
  have hsame : Yaml.read? "a: |\n  x\n" = Yaml.read? (Text.trim "a: |\n  x\n") := by
    rw [hread, hread'.used, Option.some.inj hv']
  have htexts : onlyText? (Yaml.read? "a: |\n  x\n") ≠
      onlyText? (Yaml.read? (Text.trim "a: |\n  x\n")) := by
    decide +kernel
  exact htexts (congrArg onlyText? hsame)

end Workflow

end Blockflow
