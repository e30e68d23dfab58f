import Blockflow.Block.Catalog
import Blockflow.Proofs.Dict
import Blockflow.Proofs.Pipeline.Blocks
import Blockflow.Proofs.Pipeline.Document

/-!
# Settings that are null

A setting that is null counts as missing: validation says the same of both, and nearly everything
that is made of a block makes no difference between them. The one that does is how long uploaded
files are kept. A missing number of days stands for thirty, but null is written into the document.
-/

namespace Blockflow

namespace Block

/-- The block without the settings that are null. -/
def withoutNulls (b : Block) : Block := { b with config := b.config.filter fun _ v ↦ !v.isNull }

/-- Whether a block uploads files, and null stands where it says how long they are kept. -/
def WritesNull (b : Block) : Prop :=
  Kind.ofTag? b.tag = some .utilityUploadArtifact ∧ b.config.get? "retention" = some .null

instance : DecidablePred WritesNull := fun _ ↦ inferInstanceAs (Decidable (_ ∧ _))

variable (b : Block) (key : String)

theorem get?_withoutNulls :
    b.withoutNulls.config.get? key = (b.config.get? key).filter (!·.isNull) :=
  Dict.get?_filter _ _ _

/-- What cannot be read off null is read off the settings that are left. -/
private theorem bind_withoutNulls {α : Type} {read? : Json → Option α}
    (hnull : read? .null = none) :
    (b.withoutNulls.config.get? key).bind read? = (b.config.get? key).bind read? := by
  rw [get?_withoutNulls]
  cases b.config.get? key with
  | none => rfl
  | some v =>
    cases v with
    | null => exact hnull.symm
    | _ => rfl

@[simp] theorem text?_withoutNulls : b.withoutNulls.text? key = b.text? key :=
  bind_withoutNulls b key rfl

@[simp] theorem flag?_withoutNulls : b.withoutNulls.flag? key = b.flag? key :=
  bind_withoutNulls b key rfl

@[simp] theorem filled?_withoutNulls : b.withoutNulls.filled? key = b.filled? key := by
  rw [filled?, filled?, text?_withoutNulls]

@[simp] theorem listed_withoutNulls : b.withoutNulls.listed key = b.listed key := by
  rw [listed, listed, text?_withoutNulls]

@[simp] theorem texts_withoutNulls : b.withoutNulls.texts key = b.texts key := by
  rw [texts, texts, bind_withoutNulls b key rfl]

@[simp] theorem textOf_withoutNulls : b.withoutNulls.textOf key = b.textOf key := by
  rw [textOf, textOf, text?_withoutNulls]

@[simp] theorem flagOf_withoutNulls (value : Bool) :
    b.withoutNulls.flagOf key value = b.flagOf key value := by
  rw [flagOf, flagOf, flag?_withoutNulls]

@[simp] theorem filledInput_withoutNulls (input : String) :
    b.withoutNulls.filledInput key input = b.filledInput key input := by
  rw [filledInput, filledInput, filled?_withoutNulls]

@[simp] theorem fetchDepth_withoutNulls : b.withoutNulls.fetchDepth = b.fetchDepth := by
  rw [fetchDepth, fetchDepth, get?_withoutNulls, Option.filter_filter]
  congr 2
  funext v
  cases v <;> rfl

theorem get?_withoutNulls_of_ne (h : b.config.get? key ≠ some .null) :
    b.withoutNulls.config.get? key = b.config.get? key := by
  rw [get?_withoutNulls]
  cases hv : b.config.get? key with
  | none => rfl
  | some v =>
    cases v with
    | null => exact absurd hv h
    | _ => rfl

theorem stepsOfKind?_withoutNulls {k : Kind} (hk : Kind.ofTag? b.tag = some k)
    (h : ¬b.WritesNull) : b.withoutNulls.stepsOfKind? k = b.stepsOfKind? k := by
  have hname : b.withoutNulls.stepName = b.stepName := rfl
  cases k with
  | utilityUploadArtifact =>
    have hretention := b.get?_withoutNulls_of_ne "retention" fun hnull ↦ h ⟨hk, hnull⟩
    simp [stepsOfKind?, hname, hretention]
  | _ =>
    simp [stepsOfKind?, hname, submodules, imageOf, imageTags, exportScript?, auxiliaryStepName]

theorem steps?_withoutNulls (h : ¬b.WritesNull) : b.withoutNulls.steps? = b.steps? := by
  have htag : b.withoutNulls.tag = b.tag := rfl
  rw [steps?, steps?, htag]
  split
  · next k hk => exact b.stepsOfKind?_withoutNulls hk h
  · rfl

theorem add?_withoutNulls (e : Events) : e.add? b.withoutNulls = e.add? b := by
  have htag : b.withoutNulls.tag = b.tag := rfl
  simp only [Events.add?, htag, pushFilter, pullRequestFilter, releaseFilter, listed_withoutNulls,
    texts_withoutNulls, filled?_withoutNulls]

theorem readsAs_withoutNulls (h : ¬b.WritesNull) : b.withoutNulls.ReadsAs b where
  id := rfl
  tag := rfl
  label := rfl
  steps? := b.steps?_withoutNulls h
  add? := b.add?_withoutNulls
  condition? := by
    have htag : b.withoutNulls.tag = b.tag := rfl
    simp only [Compile.condition?, htag, filled?_withoutNulls]
  strategy? := by
    have htag : b.withoutNulls.tag = b.tag := rfl
    simp only [Compile.strategy?, htag, filled?_withoutNulls, flagOf_withoutNulls]
  environment := b.filled?_withoutNulls _

end Block

namespace Workflow

/-- The workflow without the settings that are null. -/
def withoutNulls (w : Workflow) : Workflow := w.mapBlocks Block.withoutNulls

variable (w : Workflow) (r : Registry)

theorem document?_withoutNulls (h : ∀ b ∈ w.blocks, ¬b.WritesNull) :
    w.withoutNulls.document? r = w.document? r := by
  -- nothing is to be assumed of blocks outside the workflow, so those that write null stay there
  let f (b : Block) : Block := if b.WritesNull then b else b.withoutNulls
  have hmap : w.withoutNulls = w.mapBlocks f := by
    have hblocks : w.blocks.map Block.withoutNulls = w.blocks.map f :=
      List.map_congr_left fun b hb ↦ (if_neg (h b hb)).symm
    rw [withoutNulls, mapBlocks, mapBlocks, hblocks]
  rw [hmap]
  refine document?_mapBlocks w r fun b ↦ ?_
  by_cases hb : b.WritesNull
  · simpa only [f, if_pos hb] using .refl b
  · simpa only [f, if_neg hb] using b.readsAs_withoutNulls hb

end Workflow

/-! ### Validation -/

namespace Validation

section Blocks

variable {f : Block → Block} (hid : ∀ b, (f b).id = b.id) (w : Workflow) (r : Registry)
include hid

private theorem block?_mapBlocks (id : String) :
    (w.mapBlocks f).block? id = (w.block? id).map f := by
  rw [Workflow.block?, Workflow.block?, Workflow.mapBlocks, List.find?_map]
  simp only [Function.comp_def, hid]

variable (htag : ∀ b, (f b).tag = b.tag)
include htag

/-- What a connection links are the same ports, at changed blocks. -/
private theorem linkOf_mapBlocks (c : Connection) : linkOf (w.mapBlocks f) r c =
    (linkOf w r c).map id (Option.map fun l ↦ { l with target := f l.target }) := by
  simp only [linkOf, block?_mapBlocks hid]
  cases w.block? c.source with
  | none => cases w.block? c.target <;> rfl
  | some source =>
    cases w.block? c.target with
    | none => rfl
    | some target =>
      simp only [Option.map_some, htag, hid]
      cases r.get? source.tag with
      | none => rfl
      | some sourceDef =>
        cases r.get? target.tag with
        | none => rfl
        | some targetDef =>
          dsimp only
          cases sourceDef.output? c.sourcePort <;> cases targetDef.input? c.targetPort <;> rfl

private theorem connectionFindings_mapBlocks (taken : List (String × String))
    (cs : List Connection) :
    connectionFindings (w.mapBlocks f) r taken cs = connectionFindings w r taken cs := by
  induction cs generalizing taken with
  | nil => rfl
  | cons c cs ih =>
    simp only [connectionFindings, linkOf_mapBlocks hid w r htag, ih]
    cases linkOf w r c with
    | inl findings => rfl
    | inr link =>
      cases link with
      | none => rfl
      | some link => simp [hid]

end Blocks

theorem fieldFindings_withoutNulls (b : Block) (f : Field) :
    fieldFindings b.withoutNulls f = fieldFindings b f := by
  have hid : b.withoutNulls.id = b.id := rfl
  have hempty : (b.withoutNulls.config.get? f.key).all Field.isEmptyValue =
      (b.config.get? f.key).all Field.isEmptyValue := by
    rw [b.get?_withoutNulls]
    cases b.config.get? f.key with
    | none => rfl
    | some v => cases v <;> rfl
  have hpresent : f.checkPresent (b.withoutNulls.config.get? f.key) =
      f.checkPresent (b.config.get? f.key) := by
    rw [Field.checkPresent, Field.checkPresent, b.get?_withoutNulls, Option.filter_filter]
    simp only [Bool.and_self]
  simp only [fieldFindings, hempty, hpresent, hid]

/-- No setting is left that belongs to no field, and of each field the same is said as before. -/
theorem configFindings_withoutNulls {r : Registry} {b : Block} (h : configFindings r b = []) :
    configFindings r b.withoutNulls = [] := by
  have htag : b.withoutNulls.tag = b.tag := rfl
  have hkeys : b.withoutNulls.config.keys ⊆ b.config.keys :=
    (List.filter_sublist.map _).subset
  unfold configFindings at h ⊢
  rw [htag]
  split at h
  · rfl
  · next d hd =>
    simp only [List.append_eq_nil_iff, List.flatMap_eq_nil_iff, List.map_eq_nil_iff,
      List.filter_eq_nil_iff] at h ⊢
    exact ⟨fun f hf ↦ (fieldFindings_withoutNulls b f).trans (h.1 f hf),
      fun key hkey ↦ h.2 key (hkeys hkey)⟩

end Validation

namespace Workflow

open Validation

variable (w : Workflow) (r : Registry)

/-- A workflow without problems has none without the settings that are null. -/
theorem isValid_withoutNulls (h : w.isValid r = true) : w.withoutNulls.isValid r = true := by
  have hid (b : Block) : b.withoutNulls.id = b.id := rfl
  have htag (b : Block) : b.withoutNulls.tag = b.tag := rfl
  have hstepIds : w.withoutNulls.stepIds r = w.stepIds r := stepIds_mapBlocks w r htag hid
  have hsteps : (w.withoutNulls.steps r).map (·.id) = (w.steps r).map (·.id) := by
    rw [withoutNulls, steps_mapBlocks w r htag, List.map_map]
    rfl
  have htriggers : w.withoutNulls.triggers r = (w.triggers r).map Block.withoutNulls :=
    triggers_mapBlocks w r htag
  have hreached : reachedIds w.withoutNulls r = reachedIds w r := by
    rw [reachedIds, reachedIds, htriggers, List.map_map]
    rfl
  simp only [isValid, findings, List.isEmpty_iff, List.append_eq_nil_iff] at h ⊢
  obtain ⟨⟨⟨⟨⟨htypes, hconfigs⟩, hconnections⟩, hcycles⟩, hreach⟩, htrigger⟩ := h
  refine ⟨⟨⟨⟨⟨?_, ?_⟩, ?_⟩, ?_⟩, ?_⟩, ?_⟩
  · rwa [withoutNulls, mapBlocks, List.flatMap_map]
  · rw [List.flatMap_eq_nil_iff] at hconfigs ⊢
    exact List.forall_mem_map.mpr fun b hb ↦ configFindings_withoutNulls (hconfigs b hb)
  · exact (connectionFindings_mapBlocks hid w r htag _ _).trans hconnections
  · rwa [cycleFindings, hstepIds]
  · rwa [reachFindings, hreached, hsteps]
  · simpa only [triggerFindings, htriggers, List.isEmpty_map] using htrigger

/-- Without the settings that are null a workflow without problems has none either. It becomes the
same pipeline if null does not stand where a block says how long uploaded files are kept. -/
theorem compile_withoutNulls (h : w.isValid r = true) : w.withoutNulls.isValid r = true ∧
    ((∀ b ∈ w.blocks, ¬b.WritesNull) → w.withoutNulls.compile r = w.compile r) := by
  have hvalid := w.isValid_withoutNulls r h
  refine ⟨hvalid, fun hnulls ↦ ?_⟩
  rw [compile, compile, if_pos h, if_pos hvalid, w.document?_withoutNulls r hnulls]

/-- A workflow that uploads files whenever anything is pushed. -/
private def uploading (retention : Json) : Workflow where
  id := "wf"
  name := "CI"
  description := ""
  blocks :=
    [⟨"t", Kind.triggerPush.tag, .origin, .ofList [("branches", .null)], none⟩,
      ⟨"u", Kind.utilityUploadArtifact.tag, .origin,
        .ofList [("name", .str "n"), ("path", .str "p"), ("retention", retention)], none⟩]
  connections := [⟨"1", "t", "out", "u", "in"⟩]

theorem compile_withoutNulls_uploading : (uploading (.ofNat 5)).isValid .builtin = true ∧
    (uploading (.ofNat 5)).withoutNulls ≠ uploading (.ofNat 5) ∧
    ∃ p, (uploading (.ofNat 5)).compile .builtin = .ok p ∧
      (uploading (.ofNat 5)).withoutNulls.compile .builtin = .ok p := by
  have hvalid : (uploading (.ofNat 5)).isValid .builtin = true := by decide +kernel
  have hchanged : (uploading (.ofNat 5)).withoutNulls ≠ uploading (.ofNat 5) := by decide +kernel
  have hnulls : ∀ b ∈ (uploading (.ofNat 5)).blocks, ¬b.WritesNull := by decide +kernel
  have hok : ((uploading (.ofNat 5)).compile .builtin).isOk = true := by decide +kernel
  have hsame := (compile_withoutNulls (uploading (.ofNat 5)) .builtin hvalid).2 hnulls
  obtain ⟨p, hp⟩ := exists_compile_eq_ok hok
  exact ⟨hvalid, hchanged, p, hp, hsame.trans hp⟩

/-- The number of characters in the text of a workflow's document. -/
private def length? (w : Workflow) (r : Registry) : Option Nat :=
  (w.document? r).map fun d ↦
    ((Yaml.write none false false none d.1.toYaml .empty).indentTo 0).done.length

private theorem length?_of_compile {w : Workflow} {r : Registry} {p : Pipeline}
    (h : w.compile r = .ok p) : w.length? r = some p.text.toList.length := by
  obtain ⟨-, d, hd, htext⟩ := compile_eq_ok_iff.mp h
  rw [Yaml.text?] at htext
  split at htext
  · rw [length?, hd, ← Option.some.inj htext, Yaml.Page.text, String.toList_ofList,
      List.length_reverse]
    rfl
  · cases htext

/-- Null is written where a block does not say how long uploaded files are kept, and thirty where it
says nothing at all. -/
theorem compile_withoutNulls_ne_uploading : (uploading .null).isValid .builtin = true ∧
    (uploading .null).withoutNulls.compile .builtin ≠ (uploading .null).compile .builtin := by
  have hok : ((uploading .null).compile .builtin).isOk = true := by decide +kernel
  have hne : (uploading .null).withoutNulls.length? .builtin ≠
      (uploading .null).length? .builtin := by decide +kernel
  obtain ⟨p, hp⟩ := exists_compile_eq_ok hok
  refine ⟨by decide +kernel, fun h ↦ hne ?_⟩
  rw [length?_of_compile hp, length?_of_compile (h.trans hp)]

end Workflow

end Blockflow
