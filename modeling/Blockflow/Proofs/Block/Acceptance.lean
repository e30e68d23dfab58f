import Blockflow.Block.Catalog
import Blockflow.Proofs.Dict
import Blockflow.Proofs.Workflow.Change

/-!
# Settings that a definition accepts

Every setting belongs to a field that lets its value pass. The defaults of a sound definition are
such settings, and changes that are not refused leave such settings if they find such settings.
Required values may still be missing or empty: that is asked of a finished workflow only.
-/

namespace Blockflow

namespace Definition

variable {d : Definition} {config patch : Settings} {block key : String} {v : Json} {f : Field}

/-- Whether every setting belongs to a field that lets its value pass. -/
def Accepts (d : Definition) (config : Settings) : Prop :=
  ∀ key v, config.get? key = some v → ∃ f, d.field? key = some f ∧ f.check v = .ok ()

/-- What is expected of a definition. -/
structure IsSound (d : Definition) : Prop where
  /-- No two fields have the same key. -/
  keys : (d.fields.map (·.key)).Nodup
  /-- Every default passes the check of its own field. -/
  defaults : ∀ f ∈ d.fields, ∀ v ∈ f.default, f.check v = .ok ()

/-! ### Fields by their keys -/

theorem of_field?_eq_some (h : d.field? key = some f) : f ∈ d.fields ∧ f.key = key :=
  ⟨List.mem_of_find?_eq_some h, by simpa using List.find?_some h⟩

/-- A field is found by its key. -/
theorem IsSound.field?_eq_some (h : d.IsSound) (hf : f ∈ d.fields) : d.field? f.key = some f := by
  have hsome : (d.field? f.key).isSome := List.find?_isSome.mpr ⟨f, hf, beq_self_eq_true _⟩
  obtain ⟨g, hg⟩ := Option.isSome_iff_exists.mp hsome
  obtain ⟨hmem, hkey⟩ := of_field?_eq_some hg
  rw [hg, List.inj_on_of_nodup_map h.keys hmem hf hkey]

/-! ### One setting -/

theorem Accepts.insert (h : d.Accepts config) (hf : d.field? key = some f)
    (hv : f.check v = .ok ()) : d.Accepts (config.insert key v) := by
  intro other value hget
  rw [Dict.get?_insert] at hget
  split at hget
  · next heq =>
    subst heq
    obtain rfl := Option.some.inj hget
    exact ⟨f, hf, hv⟩
  · exact h other value hget

theorem Accepts.erase (h : d.Accepts config) (key : String) : d.Accepts (config.erase key) := by
  intro other value hget
  rw [Dict.get?_erase] at hget
  split at hget
  · cases hget
  · exact h other value hget

/-- What holds of a setting that is not refused. -/
theorem of_checkSetting (h : Editor.checkSetting block d key v = .ok ()) :
    ∃ f, d.field? key = some f ∧ (v.isNull = false → f.check v = .ok ()) := by
  rw [Editor.checkSetting] at h
  split at h
  · cases h
  · next f hf =>
    refine ⟨f, hf, fun hnull ↦ ?_⟩
    rw [hnull, if_neg Bool.false_ne_true] at h
    split at h
    · next hok => exact hok
    · cases h

theorem Accepts.putSetting (h : d.Accepts config) (hd : d.IsSound)
    (hv : Editor.checkSetting block d key v = .ok ()) :
    d.Accepts (Editor.putSetting d config key v) := by
  obtain ⟨f, hf, hcheck⟩ := of_checkSetting hv
  rw [Editor.putSetting]
  split
  · -- the setting goes back to the default of its field
    split
    · next value hdefault =>
      rw [hf, Option.bind_some] at hdefault
      exact h.insert hf (hd.defaults f (of_field?_eq_some hf).1 value hdefault)
    · exact h.erase key
  · next hnull => exact h.insert hf (hcheck (by simpa using hnull))

/-! ### All settings of a block -/

theorem IsSound.accepts_defaultConfig (hd : d.IsSound) : d.Accepts d.defaultConfig := by
  intro key v hget
  have hmem := Dict.mem_of_get?_ofList hget
  simp only [List.mem_filterMap, Option.map_eq_some_iff, Prod.mk.injEq] at hmem
  obtain ⟨f, hf, v, hdefault, rfl, rfl⟩ := hmem
  exact ⟨f, hd.field?_eq_some hf, hd.defaults f hf v hdefault⟩

private theorem Accepts.foldl_putSetting (hd : d.IsSound) {entries : List (String × Json)}
    (hentries : ∀ e ∈ entries, Editor.checkSetting block d e.1 e.2 = .ok ())
    (h : d.Accepts config) :
    d.Accepts (entries.foldl (fun config e ↦ Editor.putSetting d config e.1 e.2) config) := by
  induction entries generalizing config with
  | nil => exact h
  | cons e entries ih =>
    rw [List.forall_mem_cons] at hentries
    exact ih hentries.2 (h.putSetting hd hentries.1)

/-- Changes that are not refused leave settings that are accepted. -/
theorem Accepts.patched (h : d.Accepts config) (hd : d.IsSound) {config' : Settings}
    (hp : Editor.patched block d config patch = .ok config') : d.Accepts config' := by
  obtain ⟨_, hchecks, hresult⟩ := except_bind_eq_ok.mp hp
  obtain rfl := Except.ok.inj hresult
  exact h.foldl_putSetting hd (except_forM_eq_ok.mp hchecks)

end Definition

end Blockflow
