import Blockflow.Proofs.Pipeline.Jobs
import Blockflow.Proofs.Pipeline.Settings
import Blockflow.Proofs.Yaml.Writable

/-!
# When a workflow can be compiled

A workflow without problems has no pipeline if one of its YAML texts is none any more without the
blanks at its ends, or if what such a text stands for cannot be written. Nothing else is in the way.
-/

namespace Blockflow

open Compile

namespace Block

/-- What the matrix of a block stands for. -/
def matrix? (b : Block) : Option Yaml :=
  if Kind.ofTag? b.tag = some .controlMatrix then (b.filled? "matrix").bind Yaml.read? else none

variable {b : Block}

theorem kind_of_matrix? {y : Yaml} (h : b.matrix? = some y) :
    Kind.ofTag? b.tag = some .controlMatrix := by
  unfold matrix? at h
  split at h
  · assumption
  · simp at h

theorem isSome_exportScript? (hk : Kind.ofTag? b.tag = some .utilityEnv) :
    b.exportScript?.isSome ↔ b.ReadsYaml := by
  rw [readsYaml_iff hk rfl]
  unfold exportScript?
  cases b.filled? "variables" with
  | none => simp
  | some source => cases hread : Yaml.read? source <;> simp [hread]

/-- The steps of a block can be made if its variables are YAML. -/
theorem isSome_steps? :
    b.steps?.isSome ↔ (Kind.ofTag? b.tag = some .utilityEnv → b.ReadsYaml) := by
  unfold steps?
  split
  · next k hk =>
    by_cases henv : k = .utilityEnv
    · subst henv
      rw [stepsOfKind?, Option.isSome_map, isSome_exportScript? hk, hk]
      simp
    · have hsome : (b.stepsOfKind? k).isSome := by
        cases k <;> first | rfl | exact absurd rfl henv
      simp [hsome, hk, henv]
  · next hk => simp [hk]

end Block

namespace Events

/-- A trigger can be added if its inputs are YAML. -/
theorem isSome_add? {e : Events} {b : Block} :
    (e.add? b).isSome ↔ (Kind.ofTag? b.tag = some .triggerManual → b.ReadsYaml) := by
  by_cases hmanual : Kind.ofTag? b.tag = some .triggerManual
  · rw [b.readsYaml_iff hmanual rfl]
    simp only [add?, hmanual, forall_const]
    cases b.filled? "inputs" with
    | none => simp
    | some source => simp
  · simp only [hmanual, false_imp_iff, iff_true]
    unfold add?
    split
    case h_5 hk => exact absurd hk hmanual
    case h_4 => cases b.filled? "cron" <;> rfl
    all_goals rfl

end Events

namespace Compile

/-- What an opener says about its job can be read if its matrix is YAML. -/
theorem isSome_strategy? {b : Block}
    (hfilled : Kind.ofTag? b.tag = some .controlMatrix → (b.filled? "matrix").isSome) :
    (strategy? b).isSome ↔ (Kind.ofTag? b.tag = some .controlMatrix → b.ReadsYaml) := by
  unfold strategy?
  split
  · next hk =>
    obtain ⟨source, hsource⟩ := Option.isSome_iff_exists.mp (hfilled hk)
    simp [hk, b.readsYaml_iff hk rfl, hsource]
  · next hk => simp [hk]

/-- The matrix of a job is what the matrix of its opener stands for. -/
theorem matrix_of_strategy? {b : Block} {s : Option Strategy} (h : strategy? b = some s)
    (hfilled : Kind.ofTag? b.tag = some .controlMatrix → (b.filled? "matrix").isSome) :
    s.map (·.matrix) = b.matrix? := by
  unfold strategy? at h
  rw [Block.matrix?]
  split at h
  · next hk =>
    obtain ⟨source, hsource⟩ := Option.isSome_iff_exists.mp (hfilled hk)
    obtain ⟨y, hy, rfl⟩ := Option.map_eq_some_iff.mp h
    rw [hsource, Option.getD_some] at hy
    simp [hk, hsource, hy]
  · next hk =>
    rw [if_neg hk, ← Option.some.inj h]
    rfl

end Compile

namespace Workflow

open Plan

variable {w : Workflow} {r : Registry} {b : Block}

/-- Whether a block goes into the pipeline: a trigger does, and of all steps with one id the
last. -/
def IsCompiled (w : Workflow) (r : Registry) (b : Block) : Prop :=
  b ∈ w.triggers r ∨ w.lastStep? r b.id = some b

/-- The inputs of a start by hand, of all manual triggers together. -/
def dispatchInputs? (w : Workflow) (r : Registry) : Option Yaml :=
  ((w.events? r).bind (·.dispatch)).bind (·.inputs)

/-- What has to hold of the YAML in the settings of a workflow, beyond what is checked. -/
structure KeepsYaml (w : Workflow) (r : Registry) : Prop where
  /-- A YAML text with blanks at its ends is YAML without them too. -/
  trimmed : ∀ b, w.IsCompiled r b → ∀ s, b.yamlText? = some s → Text.allBlank s = false →
    Text.trim s ≠ s → (Yaml.read? (Text.trim s)).isSome
  /-- The matrices can be written. -/
  matrices : ∀ b, w.IsCompiled r b → ∀ y, b.matrix? = some y → y.isWritable = true
  /-- The inputs of a start by hand can be written. -/
  inputs : ∀ y, w.dispatchInputs? r = some y → y.isWritable = true

theorem IsCompiled.mem_blocks (h : w.IsCompiled r b) : b ∈ w.blocks :=
  h.elim List.mem_of_mem_filter fun h ↦ (mem_steps.mp (of_lastStep?_eq_some h).1).1

private theorem isTrigger_eq {k : Kind} (hk : Kind.ofTag? b.tag = some k) :
    isTrigger .builtin b = Registry.builtin.isTrigger k.tag := by
  rw [isTrigger, Kind.tag_of_ofTag? hk]

/-- A block of a kind that starts runs goes into the pipeline as a trigger. -/
private theorem IsCompiled.mem_triggers {k : Kind} (h : w.IsCompiled .builtin b)
    (hk : Kind.ofTag? b.tag = some k) (ht : Registry.builtin.isTrigger k.tag = true) :
    b ∈ w.triggers .builtin :=
  List.mem_filter.mpr ⟨h.mem_blocks, (isTrigger_eq hk).trans ht⟩

/-- A block of any other kind goes into the pipeline as a step. -/
private theorem IsCompiled.lastStep? {k : Kind} (h : w.IsCompiled .builtin b)
    (hk : Kind.ofTag? b.tag = some k) (ht : Registry.builtin.isTrigger k.tag = false) :
    w.lastStep? .builtin b.id = some b := by
  refine h.resolve_left fun hb ↦ ?_
  have htrue := (List.mem_filter.mp hb).2
  rw [isTrigger_eq hk, ht] at htrue
  simp at htrue

/-- Exactly if all YAML texts that go into the pipeline are YAML without the blanks at their ends,
each kind of block finds its text readable. -/
private theorem readsYaml_iff_by_kind : (∀ b, w.IsCompiled .builtin b → b.ReadsYaml) ↔
    (∀ b ∈ w.triggers .builtin, Kind.ofTag? b.tag = some .triggerManual → b.ReadsYaml) ∧
      (∀ b, w.lastStep? .builtin b.id = some b →
        Kind.ofTag? b.tag = some .utilityEnv → b.ReadsYaml) ∧
      ∀ b, w.lastStep? .builtin b.id = some b →
        Kind.ofTag? b.tag = some .controlMatrix → b.ReadsYaml := by
  constructor
  · intro h
    exact ⟨fun b hb _ ↦ h b (.inl hb), fun b hb _ ↦ h b (.inr hb), fun b hb _ ↦ h b (.inr hb)⟩
  · rintro ⟨hmanual, henv, hmatrix⟩ b hb
    cases hk : Kind.ofTag? b.tag with
    | none => simp [Block.ReadsYaml, Block.yamlText?, hk]
    | some k =>
      cases k with
      | triggerManual => exact hmanual b (hb.mem_triggers hk rfl) hk
      | utilityEnv => exact henv b (hb.lastStep? hk rfl) hk
      | controlMatrix => exact hmatrix b (hb.lastStep? hk rfl) hk
      | _ => simp [Block.ReadsYaml, Block.yamlText?, hk, Kind.yamlKey?]

theorem isSome_events? : (w.events? r).isSome ↔
    ∀ b ∈ w.triggers r, Kind.ofTag? b.tag = some .triggerManual → b.ReadsYaml := by
  rw [events?, isSome_foldlM (f := Events.add?) fun _ _ ↦ Events.isSome_add?]
  simp only [sortedTriggers, List.mem_mergeSort]

section Valid

variable (hv : w.isValid .builtin = true)
include hv

private theorem isSome_matrixText (hb : b ∈ w.blocks)
    (hk : Kind.ofTag? b.tag = some .controlMatrix) : (b.filled? "matrix").isSome := by
  obtain ⟨s, hs, hblank⟩ := (yaml_of_isValid hv hb hk rfl).2 rfl
  rw [Block.filled?, hs, Option.bind_some, Text.nonBlank?_eq_some.mpr ⟨hblank, rfl⟩]
  rfl

private theorem opener_mem_blocks {j : PlannedJob} (hj : j ∈ w.plan .builtin) :
    j.opener ∈ w.blocks := by
  have ha := acyclic_of_isValid hv
  have hplan := isPlanOf_plan ha
  have hlast := (mem_orderedSteps ha).mp (hplan.mem_done hj (hplan.opener j hj))
  exact (mem_steps.mp (of_lastStep?_eq_some hlast).1).1

private theorem forall_planned_iff {p : Block → Prop} :
    (∀ j ∈ w.plan .builtin, ∀ b ∈ j.blocks, p b) ↔
      ∀ b, w.lastStep? .builtin b.id = some b → p b := by
  have ha := acyclic_of_isValid hv
  have hplan := isPlanOf_plan ha
  constructor
  · intro h b hb
    obtain ⟨j, hj, hbj⟩ := hplan.exists_job ((mem_orderedSteps ha).mpr hb)
    exact h j hj b hbj
  · intro h j hj b hb
    exact h b ((mem_orderedSteps ha).mp (hplan.mem_done hj hb))

/-- The blocks with a matrix are openers of jobs. -/
private theorem forall_opener_iff {p : Block → Prop} :
    (∀ j ∈ w.plan .builtin, Kind.ofTag? j.opener.tag = some .controlMatrix → p j.opener) ↔
      ∀ b, w.lastStep? .builtin b.id = some b →
        Kind.ofTag? b.tag = some .controlMatrix → p b := by
  have ha := acyclic_of_isValid hv
  have hplan := isPlanOf_plan ha
  constructor
  · intro h b hb hk
    have hcontrol : Registry.builtin.category? b.tag = some .control := by
      rw [← Kind.tag_of_ofTag? hk]
      rfl
    obtain ⟨j, hj, rfl⟩ := hplan.exists_opener ((mem_orderedSteps ha).mpr hb)
      (joined?_eq_none_of_control hcontrol)
    exact h j hj hk
  · intro h j hj
    exact h j.opener ((mem_orderedSteps ha).mp (hplan.mem_done hj (hplan.opener j hj)))

private theorem isSome_document?_iff :
    (w.document? .builtin).isSome ↔ ∀ b, w.IsCompiled .builtin b → b.ReadsYaml := by
  have hopeners : (∀ j ∈ w.plan .builtin, (strategy? j.opener).isSome) ↔
      ∀ j ∈ w.plan .builtin,
        Kind.ofTag? j.opener.tag = some .controlMatrix → j.opener.ReadsYaml :=
    forall₂_congr fun j hj ↦
      isSome_strategy? fun hk ↦ isSome_matrixText hv (opener_mem_blocks hv hj) hk
  rw [isSome_document?, isSome_events?, hopeners, forall_opener_iff hv, forall_planned_iff hv,
    readsYaml_iff_by_kind]
  simp only [Block.isSome_steps?]

/-- Trimming is all that can be wrong with the texts of a workflow without problems. -/
private theorem forall_readsYaml_iff : (∀ b, w.IsCompiled .builtin b → b.ReadsYaml) ↔
    ∀ b, w.IsCompiled .builtin b → ∀ s, b.yamlText? = some s → Text.allBlank s = false →
      Text.trim s ≠ s → (Yaml.read? (Text.trim s)).isSome := by
  refine forall₂_congr fun b hb ↦ ?_
  constructor
  · intro h s hs hblank _
    exact h _ (by rw [hs, Option.bind_some, Text.nonBlank?_eq_some.mpr ⟨hblank, rfl⟩])
  · intro h text htext
    obtain ⟨s, hs, hnonblank⟩ := Option.bind_eq_some_iff.mp htext
    obtain ⟨hblank, rfl⟩ := Text.nonBlank?_eq_some.mp hnonblank
    by_cases htrim : Text.trim s = s
    · obtain ⟨key, hkey, hsource⟩ := Option.bind_eq_some_iff.mp hs
      obtain ⟨k, hk, hyaml⟩ := Option.bind_eq_some_iff.mp hkey
      have hread := (yaml_of_isValid hv hb.mem_blocks hk hyaml).1 s hsource
      rw [htrim]
      exact hread.resolve_left (by simp [hblank])
    · exact h s hs hblank htrim

private theorem isWritable_job_iff {j : PlannedJob} {entry : String × Job}
    (hj : j ∈ w.plan .builtin) (h : Emits .builtin j entry) :
    entry.2.toYaml.isWritable = true ↔
      ∀ y, j.opener.matrix? = some y → y.isWritable = true := by
  have hmatrix : entry.2.strategy.map (·.matrix) = j.opener.matrix? :=
    matrix_of_strategy? h.strategy fun hk ↦ isSome_matrixText hv (opener_mem_blocks hv hj) hk
  rw [Job.isWritable_toYaml, ← hmatrix]
  simp only [Option.map_eq_some_iff, forall_exists_index, and_imp, forall_apply_eq_imp_iff₂]

private theorem forall_matrix_iff :
    (∀ j ∈ w.plan .builtin, ∀ y, j.opener.matrix? = some y → y.isWritable = true) ↔
      ∀ b, w.IsCompiled .builtin b → ∀ y, b.matrix? = some y → y.isWritable = true := by
  have hopener := forall_opener_iff hv (p := fun b ↦
    ∀ y, b.matrix? = some y → y.isWritable = true)
  constructor
  · intro h b hb y hy
    have hk := Block.kind_of_matrix? hy
    exact hopener.mp (fun j hj _ ↦ h j hj) b (hb.lastStep? hk rfl) hk y hy
  · intro h j hj y hy
    exact hopener.mpr (fun b hb _ ↦ h b (.inr hb)) j hj (Block.kind_of_matrix? hy) y hy

end Valid

private theorem isWritable_events_iff {d : Document} {names : NameMap}
    (hd : w.document? r = some (d, names)) : d.events.toYaml.isWritable = true ↔
      ∀ y, w.dispatchInputs? r = some y → y.isWritable = true := by
  rw [Events.isWritable_toYaml, dispatchInputs?, document?_events hd, Option.bind_some]
  constructor
  · intro h y hy
    obtain ⟨dispatch, hdispatch, hinputs⟩ := Option.bind_eq_some_iff.mp hy
    exact h dispatch hdispatch y hinputs
  · intro h dispatch hdispatch y hinputs
    exact h y (Option.bind_eq_some_iff.mpr ⟨dispatch, hdispatch, hinputs⟩)

/-- A workflow without problems can be compiled exactly if its YAML texts are YAML without the
blanks at their ends and what they stand for can be written. -/
theorem compile_ok_iff_of_isValid (w : Workflow) (hv : w.isValid .builtin = true) :
    (∃ p, w.compile .builtin = .ok p) ↔ w.KeepsYaml .builtin := by
  have hok : (∃ p, w.compile .builtin = .ok p) ↔ ∃ d names,
      w.document? .builtin = some (d, names) ∧ d.toYaml.isWritable = true := by
    simp only [compile_eq_ok_iff, hv, true_and, ← Yaml.isSome_text?, Option.isSome_iff_exists]
    constructor
    · rintro ⟨p, d, hd, ht⟩
      exact ⟨d, p.names, hd, p.text, ht⟩
    · rintro ⟨d, names, hd, text, ht⟩
      exact ⟨⟨text, names⟩, d, hd, ht⟩
  have hwritable {d : Document} {names : NameMap} (hd : w.document? .builtin = some (d, names)) :
      d.toYaml.isWritable = true ↔
        (∀ y, w.dispatchInputs? .builtin = some y → y.isWritable = true) ∧
          ∀ b, w.IsCompiled .builtin b → ∀ y, b.matrix? = some y → y.isWritable = true := by
    rw [Document.isWritable_toYaml, isWritable_events_iff hd, ← forall_matrix_iff hv]
    rw [forall_iff_of_forall₂ (document?_emits hd) fun j hj _ ↦ isWritable_job_iff hv hj]
  rw [hok]
  constructor
  · rintro ⟨d, names, hd, hw⟩
    have hsome : (w.document? .builtin).isSome := by rw [hd]; rfl
    obtain ⟨hinputs, hmatrices⟩ := (hwritable hd).mp hw
    exact ⟨(forall_readsYaml_iff hv).mp ((isSome_document?_iff hv).mp hsome), hmatrices, hinputs⟩
  · rintro ⟨htrimmed, hmatrices, hinputs⟩
    have hsome := (isSome_document?_iff hv).mpr ((forall_readsYaml_iff hv).mpr htrimmed)
    obtain ⟨⟨d, names⟩, hd⟩ := Option.isSome_iff_exists.mp hsome
    exact ⟨d, names, hd, (hwritable hd).mpr ⟨hinputs, hmatrices⟩⟩

/-- A workflow that is started by hand with the given inputs. -/
private def startedWith (inputs : String) : Workflow where
  id := "wf"
  name := "CI"
  description := ""
  blocks :=
    [⟨"t", Kind.triggerManual.tag, .origin, .ofList [("inputs", .str inputs)], none⟩,
      ⟨"c", Kind.jobCheckout.tag, .origin, .empty, none⟩]
  connections := [⟨"e", "t", "out", "c", "in"⟩]

/-- A workflow whose YAML loses its first indentation. -/
private def indented : Workflow := startedWith " ? a\n : b"

theorem compile_indented :
    indented.isValid .builtin = true ∧ indented.compile .builtin = .error .yaml := by
  have hv : indented.isValid .builtin = true := by decide +kernel
  have hevents : indented.events? .builtin = none := by
    rw [← Option.isNone_iff_eq_none]
    decide +kernel
  refine ⟨hv, ?_⟩
  simp only [compile, hv, document?, hevents, if_true, Option.bind_eq_bind, Option.bind_none]

/-- A workflow whose YAML loses its first line and its indentation, and is YAML still. -/
private def padded : Workflow := startedWith "\n a: b \n"

theorem compile_ok_iff_indented : indented.isValid .builtin = true ∧
    ((∃ p, indented.compile .builtin = .ok p) ↔ indented.KeepsYaml .builtin) ∧
    padded.isValid .builtin = true ∧
    (∃ b, padded.IsCompiled .builtin b ∧ ∃ s, b.yamlText? = some s ∧ Text.trim s ≠ s) ∧
    (∃ p, padded.compile .builtin = .ok p) ∧ padded.KeepsYaml .builtin := by
  have hindented : indented.isValid .builtin = true := by decide +kernel
  have hpadded : padded.isValid .builtin = true := by decide +kernel
  have htrimmed : ∃ b ∈ padded.triggers .builtin, ∃ s ∈ b.yamlText?, Text.trim s ≠ s := by
    decide +kernel
  obtain ⟨b, hb, s, hs, hne⟩ := htrimmed
  have hok : ∃ p, padded.compile .builtin = .ok p := exists_compile_eq_ok (by decide +kernel)
  exact ⟨hindented, compile_ok_iff_of_isValid indented hindented, hpadded,
    ⟨b, .inl hb, s, hs, hne⟩, hok, (compile_ok_iff_of_isValid padded hpadded).mp hok⟩

end Workflow

end Blockflow
