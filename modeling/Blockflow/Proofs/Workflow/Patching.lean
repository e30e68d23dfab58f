import Blockflow.Proofs.Block.Acceptance
import Blockflow.Proofs.Graph.Order
import Blockflow.Proofs.Workflow.First

/-!
# Changing settings twice

The settings of a block are changed by a patch, whose entries are all checked before the first of
them is written. Main statement: two patches one after the other come to the same as one patch in
which the entries of the later one take precedence; each setting is what the last entry for it says,
and a patch with an entry that is refused changes nothing.
-/

namespace Blockflow

/-! ### One block -/

namespace Definition

variable {d : Definition} {config patch : Settings} {block key : String} {v : Json}

/-- What is under a key once a value has been written there: the value, or the default of the field
if the value is `null`. -/
def valueAfter (d : Definition) (key : String) (v : Json) : Option Json :=
  if v.isNull then (d.field? key).bind (·.default) else some v

/-- Whether a value may be written under a key. -/
def Allows (d : Definition) (key : String) (v : Json) : Prop :=
  ∃ f, d.field? key = some f ∧ (v.isNull = false → f.check v = .ok ())

theorem checkSetting_eq_ok_iff : Editor.checkSetting block d key v = .ok () ↔ d.Allows key v := by
  constructor
  · exact of_checkSetting
  · rintro ⟨f, hf, hcheck⟩
    rw [Editor.checkSetting, hf]
    by_cases hnull : v.isNull = true
    · exact if_pos hnull
    · simp only [hcheck (by simpa using hnull), hnull, if_false, Bool.false_eq_true]

theorem get?_putSetting (d : Definition) (config : Settings) (e : String × Json) (key : String) :
    (Editor.putSetting d config e.1 e.2).get? key =
      if key = e.1 then d.valueAfter e.1 e.2 else config.get? key := by
  rw [Editor.putSetting, valueAfter]
  split
  · cases (d.field? e.1).bind (·.default) with
    | none => rw [Dict.get?_erase]
    | some value => rw [Dict.get?_insert]
  · rw [Dict.get?_insert]

/-- The settings with the entries of a patch written over them. -/
def merged (d : Definition) (config patch : Settings) : Settings :=
  patch.entries.foldl (fun config e ↦ Editor.putSetting d config e.1 e.2) config

theorem get?_merged (d : Definition) (config patch : Settings) (key : String) :
    (d.merged config patch).get? key =
      ((patch.get? key).map (d.valueAfter key)).getD (config.get? key) :=
  Dict.get?_foldl d.valueAfter d.get?_putSetting config patch key

/-- To write one patch over settings and then another one is to write both of them at once. -/
theorem merged_merged (d : Definition) (config p q : Settings) :
    d.merged (d.merged config p) q = d.merged config (p.override q) := by
  refine Dict.ext_get? fun key ↦ ?_
  rw [get?_merged, get?_merged, get?_merged, Dict.get?_override]
  cases q.get? key <;> rfl

/-- A patch is written exactly if each of its values may be. -/
theorem patched_eq_ok_iff {config' : Settings} : Editor.patched block d config patch = .ok config' ↔
    (∀ key v, patch.get? key = some v → d.Allows key v) ∧ config' = d.merged config patch := by
  have hchecks : (patch.entries.forM fun e ↦ Editor.checkSetting block d e.1 e.2) = .ok () ↔
      ∀ key v, patch.get? key = some v → d.Allows key v := by
    simp only [except_forM_eq_ok, checkSetting_eq_ok_iff, Dict.get?_eq_some_iff_mem, Prod.forall]
  rw [← hchecks, Editor.patched, except_bind_eq_ok]
  constructor
  · rintro ⟨⟨⟩, hchecked, hdone⟩
    exact ⟨hchecked, (Except.ok.inj hdone).symm⟩
  · rintro ⟨hchecked, rfl⟩
    exact ⟨(), hchecked, rfl⟩

end Definition

/-! ### A workflow -/

namespace Workflow

variable {r : Registry} {w v : Workflow} {id : String} {b : Block} {config other : Settings}

/-- The workflow with other settings in the first block of an id. -/
def configure (w : Workflow) (id : String) (config : Settings) : Workflow :=
  w.changeBlock id fun c ↦ { c with config }

private theorem find?_changeFirst {α : Type} {q : α → Bool} {f : α → α}
    (hq : ∀ a, q (f a) = q a) (l : List α) :
    (changeFirst q f l).find? q = (l.find? q).map f := by
  induction l with
  | nil => rfl
  | cons a l ih =>
    rw [changeFirst]
    by_cases ha : q a = true
    · rw [if_pos ha, List.find?_cons_of_pos ha, List.find?_cons_of_pos ((hq a).trans ha)]
      rfl
    · rw [if_neg ha, List.find?_cons_of_neg ha, List.find?_cons_of_neg ha, ih]

private theorem changeFirst_changeFirst {α : Type} {q : α → Bool} {f g : α → α}
    (hq : ∀ a, q (f a) = q a) (l : List α) :
    changeFirst q g (changeFirst q f l) = changeFirst q (g ∘ f) l := by
  induction l with
  | nil => rfl
  | cons a l ih =>
    rw [changeFirst, changeFirst]
    by_cases ha : q a = true
    · rw [if_pos ha, if_pos ha, changeFirst, if_pos ((hq a).trans ha)]
      rfl
    · rw [if_neg ha, if_neg ha, changeFirst, if_neg ha, ih]

theorem block?_configure (h : w.block? id = some b) (config : Settings) :
    (w.configure id config).block? id = some { b with config } := by
  have hfind := find?_changeFirst (q := fun c : Block ↦ c.id == id)
    (f := fun c ↦ { c with config }) (fun _ ↦ rfl) w.blocks
  exact hfind.trans (congrArg (Option.map _) h)

/-- Only the last settings count. -/
theorem configure_configure (w : Workflow) (id : String) (config other : Settings) :
    (w.configure id config).configure id other = w.configure id other := by
  have hblocks := changeFirst_changeFirst (q := fun c : Block ↦ c.id == id)
    (f := fun c ↦ { c with config }) (g := fun c ↦ { c with config := other })
    (fun _ ↦ rfl) w.blocks
  exact congrArg (fun blocks ↦ { w with blocks }) hblocks

theorem DistinctIds.configure_eq (hd : w.DistinctIds) (id : String) (config : Settings) :
    w.configure id config =
      { w with blocks := w.blocks.map fun c ↦ if c.id = id then { c with config } else c } := by
  have hblocks := changeFirst_eq_map (f := fun c ↦ { c with config })
    (pairwise_of_nodup_map hd id)
  simp only [beq_iff_eq] at hblocks
  exact congrArg (fun blocks ↦ { w with blocks }) hblocks

/-- Whether a workflow is another one in which settings of a block have been changed, and nothing
else has: a setting for which there is no new value is as it was. -/
def IsPatched (r : Registry) (w : Workflow) (id : String) (patch : String → Option Json)
    (v : Workflow) : Prop :=
  ∃ b d config, w.block? id = some b ∧ r.get? b.tag = some d ∧
    (∀ key, config.get? key = match patch key with
      | none => b.config.get? key
      | some value => d.valueAfter key value) ∧
    v = { w with blocks := w.blocks.map fun c ↦ if c.id = id then { c with config } else c }

end Workflow

namespace Editor

open Workflow

variable {r : Registry} {w : Workflow} {id : String} {b : Block} {d : Definition}
  {patch p q : Settings} {e f : Edit Block}

/-- The change that gives a block other settings. -/
def configured (w : Workflow) (id : String) (b : Block) (config : Settings) : Edit Block :=
  ⟨{ b with config }, w.configure id config, [.blockUpdated w.id { b with config }]⟩

/-- An accepted patch is one for a block of a known type. -/
theorem of_updateConfig (h : updateConfig r w id patch = .ok e) :
    ∃ b d, w.block? id = some b ∧ r.get? b.tag = some d := by
  obtain ⟨b, hb, h⟩ := except_bind_eq_ok.mp h
  obtain ⟨d, hd, -⟩ := except_bind_eq_ok.mp h
  exact ⟨b, d, block_eq_ok.mp hb, definition_eq_ok.mp hd⟩

/-- A patch is accepted exactly if each of its values may be written. -/
theorem updateConfig_eq_ok_iff (hb : w.block? id = some b) (hd : r.get? b.tag = some d) :
    updateConfig r w id patch = .ok e ↔
      (∀ key v, patch.get? key = some v → d.Allows key v) ∧
        configured w id b (d.merged b.config patch) = e := by
  have hupdate (config : Settings) : updateBlock w id (fun c ↦ { c with config }) =
      .ok (configured w id b config) := by
    rw [updateBlock, block_eq_ok.mpr hb]
    rfl
  have hunfold : updateConfig r w id patch = patched id d b.config patch >>= fun config ↦
      updateBlock w id fun c ↦ { c with config } := by
    rw [updateConfig, block_eq_ok.mpr hb]
    change (definition r b.tag >>= _) = _
    rw [definition_eq_ok.mpr hd]
    rfl
  simp only [hunfold, except_bind_eq_ok, hupdate, Except.ok.injEq, Definition.patched_eq_ok_iff]
  constructor
  · rintro ⟨config, ⟨hallows, rfl⟩, hdone⟩
    exact ⟨hallows, hdone⟩
  · rintro ⟨hallows, hdone⟩
    exact ⟨_, ⟨hallows, rfl⟩, hdone⟩

/-- A change that is refused changes nothing. -/
theorem after_updateConfig_of_refused (h : ∀ e, updateConfig r w id patch ≠ .ok e) (n : Nat) :
    (EditCall.updateConfig id patch).after r w n = w := by
  rw [EditCall.after]
  split
  · next e m hgives =>
    obtain ⟨e, he, -⟩ := Editing.gives_map.mp hgives
    exact absurd (Editing.gives_ofExcept.mp he).1 (h e)
  · rfl

/-- Two patches one after the other. -/
theorem updateConfig_updateConfig (hp : updateConfig r w id p = .ok e)
    (hq : updateConfig r e.workflow id q = .ok f) : ∃ g,
    updateConfig r w id (p.override q) = .ok g ∧ g.workflow = f.workflow := by
  obtain ⟨b, d, hb, hd⟩ := of_updateConfig hp
  obtain ⟨hpallows, rfl⟩ := (updateConfig_eq_ok_iff hb hd).mp hp
  have hb' := block?_configure hb (d.merged b.config p)
  obtain ⟨hqallows, rfl⟩ := (updateConfig_eq_ok_iff hb' hd).mp hq
  refine ⟨_, (updateConfig_eq_ok_iff hb hd).mpr ⟨fun key v hv ↦ ?_, rfl⟩, ?_⟩
  · rw [Dict.get?_override, Option.or_eq_some_iff] at hv
    rcases hv with hlater | ⟨-, hearlier⟩
    · exact hqallows key v hlater
    · exact hpallows key v hearlier
  · change w.configure id _ = (w.configure id _).configure id _
    rw [configure_configure, Definition.merged_merged]

theorem isPatched_of_updateConfig (hids : w.DistinctIds)
    (h : updateConfig r w id patch = .ok e) : w.IsPatched r id patch.get? e.workflow := by
  obtain ⟨b, d, hb, hd⟩ := of_updateConfig h
  obtain ⟨-, rfl⟩ := (updateConfig_eq_ok_iff hb hd).mp h
  refine ⟨b, d, d.merged b.config patch, hb, hd, fun key ↦ ?_, hids.configure_eq id _⟩
  rw [Definition.get?_merged]
  cases patch.get? key <;> rfl

/-- Two patches one after the other come to the same as one patch in which the entries of the later
one take precedence: it is accepted as well, and each setting is what the last entry for it says. A
patch is accepted exactly if each of its values may be written, and one that is not accepted changes
nothing. -/
theorem updateConfig_override (r : Registry) (w : Workflow) (hids : w.DistinctIds) (id : String) :
    (∀ p q e f, updateConfig r w id p = .ok e → updateConfig r e.workflow id q = .ok f →
      (∃ g, updateConfig r w id (p.override q) = .ok g ∧ g.workflow = f.workflow) ∧
        w.IsPatched r id (fun key ↦ (q.get? key).or (p.get? key)) f.workflow) ∧
    (∀ p e, updateConfig r w id p = .ok e → w.IsPatched r id p.get? e.workflow) ∧
    ∀ b d p, w.block? id = some b → r.get? b.tag = some d →
      ((∃ e, updateConfig r w id p = .ok e) ↔ ∀ key v, p.get? key = some v → d.Allows key v) ∧
        ∀ key v, p.get? key = some v → ¬d.Allows key v →
          ∀ n, (EditCall.updateConfig id p).after r w n = w := by
  refine ⟨fun p q e f hp hq ↦ ?_, fun p e hp ↦ isPatched_of_updateConfig hids hp,
    fun b d p hb hd ↦ ?_⟩
  · obtain ⟨g, hg, hsame⟩ := updateConfig_updateConfig hp hq
    have hpatched := isPatched_of_updateConfig hids hg
    rw [hsame, funext (Dict.get?_override p q)] at hpatched
    exact ⟨⟨g, hg, hsame⟩, hpatched⟩
  · have haccepted : (∃ e, updateConfig r w id p = .ok e) ↔
        ∀ key v, p.get? key = some v → d.Allows key v := by
      simp [updateConfig_eq_ok_iff hb hd]
    refine ⟨haccepted, fun key v hv hrefused n ↦ ?_⟩
    exact after_updateConfig_of_refused
      (fun e he ↦ hrefused (haccepted.mp ⟨e, he⟩ key v hv)) n

/-- A workflow with a step that runs tests. -/
private def tested : Workflow where
  id := "wf"
  name := "CI"
  description := ""
  blocks := [⟨"t", Kind.triggerPush.tag, .origin, .empty, none⟩,
    ⟨"c", Kind.jobTest.tag, .origin, .ofList [("command", .str "npm test")], none⟩]
  connections := []

/-- Another command, and no report. -/
private def commanded : Settings :=
  .ofList [("command", .str "cargo test"), ("coverage", .bool false)]

/-- The command that such blocks have from the start. -/
private def restored : Settings := .ofList [("command", .null)]

/-- Another command, and a setting that there is not. -/
private def misspelt : Settings := .ofList [("command", .str "make test"), ("report", .bool true)]

theorem updateConfig_override_tested : tested.DistinctIds ∧
    (∃ e f g, updateConfig .builtin tested "c" commanded = .ok e ∧
      updateConfig .builtin e.workflow "c" restored = .ok f ∧
      updateConfig .builtin tested "c" (commanded.override restored) = .ok g ∧
      g.workflow = f.workflow) ∧
    (EditCall.updateConfig "c" misspelt).after .builtin tested 0 = tested := by
  have hids : tested.DistinctIds := by decide +kernel
  have hfirst : (updateConfig .builtin tested "c" commanded).isOk = true := by decide +kernel
  obtain ⟨e, he⟩ := except_isOk_iff.mp hfirst
  have hagain : (updateConfig .builtin tested "c" commanded >>= fun e ↦
      updateConfig .builtin e.workflow "c" restored).isOk = true := by decide +kernel
  rw [he] at hagain
  obtain ⟨f, hf⟩ := except_isOk_iff.mp hagain
  have hoverride := updateConfig_override .builtin tested hids "c"
  obtain ⟨g, hg, hsame⟩ := (hoverride.1 commanded restored e f he hf).1
  refine ⟨hids, ⟨e, f, g, he, hf, hg, hsame⟩, ?_⟩
  obtain ⟨b, d, hb, hd⟩ := of_updateConfig he
  refine (hoverride.2.2 b d misspelt hb hd).2 "report" (.bool true) (by decide +kernel) ?_ 0
  rintro ⟨field, hfield, -⟩
  have hnone : (do
      let b ← tested.block? "c"
      let d ← Registry.builtin.get? b.tag
      d.field? "report") = none := by decide +kernel
  simp only [hb, hd, hfield, Option.bind_eq_bind, Option.bind_some] at hnone
  cases hnone

end Editor

end Blockflow
