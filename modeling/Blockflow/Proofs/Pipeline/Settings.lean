import Blockflow.Block.Catalog
import Blockflow.Pipeline.Compile

/-!
# Settings that have to be YAML

The three kinds of blocks with a setting that has to be YAML, what a workflow without problems
promises about it, and what a compiler makes of it: it reads the text without the blanks at its
ends.
-/

namespace Blockflow

/-- The setting of a kind that has to be YAML. -/
def Kind.yamlKey? : Kind → Option String
  | .triggerManual => some "inputs"
  | .controlMatrix => some "matrix"
  | .utilityEnv => some "variables"
  | _ => none

/-- The text of the setting that has to be YAML. -/
def Block.yamlText? (b : Block) : Option String :=
  ((Kind.ofTag? b.tag).bind Kind.yamlKey?).bind b.text?

/-- Whether the setting that has to be YAML still is when the blanks at its ends are gone. -/
def Block.ReadsYaml (b : Block) : Prop :=
  ∀ text, b.yamlText?.bind Text.nonBlank? = some text → (Yaml.read? text).isSome

variable {b : Block} {k : Kind} {key : String}

/-! ### What a block stores -/

namespace Block

/-- The text that a block stores under a key. -/
def string? (b : Block) (key : String) : Option String :=
  match b.config.get? key with
  | some (.str s) => some s
  | _ => none

/-- The text that a block stores under a key without the blanks at its ends, unless it has nothing
but blanks. -/
def trimmed? (b : Block) (key : String) : Option String :=
  ((b.string? key).map Text.trim).filter (· ≠ "")

/-- The texts in the array that a block stores under a key, whatever else stands between them. -/
def strings (b : Block) (key : String) : List String :=
  match b.config.get? key with
  | some (.arr items) => items.filterMap fun | .str s => some s | _ => none
  | _ => []

theorem text?_eq_string? (b : Block) (key : String) : b.text? key = b.string? key := by
  rw [text?, string?]
  cases b.config.get? key with
  | none => rfl
  | some v => cases v <;> rfl

theorem filled?_eq_trimmed? (b : Block) (key : String) : b.filled? key = b.trimmed? key := by
  rw [filled?, trimmed?, text?_eq_string?]
  cases b.string? key with
  | none => rfl
  | some s => by_cases hs : Text.trim s = "" <;> simp [Text.nonBlank?, hs, Option.filter]

theorem texts_eq_strings (b : Block) (key : String) : b.texts key = b.strings key := by
  rw [texts, strings]
  cases b.config.get? key with
  | none => rfl
  | some v =>
    cases v with
    | arr items =>
      have htext : Json.text? = fun | .str s => some s | _ => none := by
        funext item
        cases item <;> rfl
      rw [Option.bind_some, Json.items?, htext]
    | _ => rfl

end Block

theorem Registry.ofTag?_of_get? {r : Registry} {tag : String} {d : Definition}
    (h : r.get? tag = some d) : Kind.ofTag? tag = some d.kind := by
  have htag : d.tag = tag := by simpa using List.find?_some h
  rw [← htag, Definition.tag, Kind.ofTag?_tag]

theorem Block.readsYaml_iff (hk : Kind.ofTag? b.tag = some k) (hkey : k.yamlKey? = some key) :
    b.ReadsYaml ↔ ∀ text, b.filled? key = some text → (Yaml.read? text).isSome := by
  rw [ReadsYaml, yamlText?, hk, Option.bind_some, hkey]
  rfl

/-! ### What is checked -/

namespace Field

/-- What holds of a value of a field for YAML mappings. -/
theorem of_check_yaml {f : Field} {v : Json} (ht : f.type = .code)
    (hr : f.rule = some { Rule.free with yamlMapping := true }) (h : f.check v = .ok ()) :
    ∃ s, v = .str s ∧ (Text.allBlank s = true ∨ (Yaml.read? s).isSome) := by
  cases v with
  | str s =>
    refine ⟨s, rfl, ?_⟩
    simp only [check, ht] at h
    by_cases hs : Text.allBlank s = true
    · exact .inl hs
    · right
      rw [if_neg hs, checkText, hr] at h
      cases hy : Yaml.read? s with
      | none => simp [Rule.free, hy, throw, throwThe] at h
      | some y => rfl
  | _ => simp only [check, ht, reduceCtorEq] at h

end Field

namespace Validation

/-- What holds of the value of a field with which nothing is wrong. -/
theorem of_fieldFindings {f : Field} (h : fieldFindings b f = []) :
    (f.required = true → ∃ v, b.config.get? f.key = some v ∧ Field.isEmptyValue v = false) ∧
      ∀ v, b.config.get? f.key = some v → v.isNull = false → f.check v = .ok () := by
  simp only [fieldFindings] at h
  split at h
  · simp at h
  · next hpresent =>
    have hreq : f.required = true →
        ∃ v, b.config.get? f.key = some v ∧ Field.isEmptyValue v = false := by
      intro hr
      cases hv : b.config.get? f.key with
      | none => simp [hr, hv] at hpresent
      | some v => exact ⟨v, rfl, by simpa [hr, hv] using hpresent⟩
    refine ⟨hreq, fun v hv hnull ↦ ?_⟩
    split at h
    · next hok =>
      rw [hv, Option.all_some] at hpresent
      simp only [Field.checkPresent, hv, Option.filter_some, hnull, Bool.not_false, if_true] at hok
      rwa [if_neg hpresent] at hok
    · simp at h

end Validation

/-- Nothing is wrong with the fields of a block of a workflow without problems. -/
theorem Workflow.fieldFindings_eq_nil {w : Workflow} {r : Registry} {d : Definition} {f : Field}
    (hv : w.isValid r = true) (hb : b ∈ w.blocks) (hd : r.get? b.tag = some d)
    (hf : f ∈ d.fields) : Validation.fieldFindings b f = [] := by
  simp only [isValid, findings, List.isEmpty_iff, List.append_eq_nil_iff] at hv
  have hconfig := List.flatMap_eq_nil_iff.mp hv.1.1.1.1.2 b hb
  simp only [Validation.configFindings, hd, List.append_eq_nil_iff] at hconfig
  exact List.flatMap_eq_nil_iff.mp hconfig.1 f hf

/-- The settings that have to be YAML are fields for YAML mappings; a matrix is required. -/
theorem Catalog.exists_yamlField (h : k.yamlKey? = some key) :
    ∃ d, Registry.builtin.get? k.tag = some d ∧ ∃ f ∈ d.fields, f.key = key ∧ f.type = .code ∧
      f.rule = some { Rule.free with yamlMapping := true } ∧
      (k = .controlMatrix → f.required = true) := by
  cases k <;> simp only [Kind.yamlKey?, reduceCtorEq, Option.some.injEq] at h
  all_goals
    subst h
    refine ⟨_, rfl, ?_⟩
    simp [step, trigger, yamlMapping, needed, code, defaulting, field, select]

/-- A value that is something is not null. -/
theorem Field.isNull_of_isEmptyValue {v : Json} (h : isEmptyValue v = false) :
    v.isNull = false := by
  cases v <;> simp [isEmptyValue, Json.isNull] at h ⊢

/-- Of a workflow without problems, every setting that has to be YAML is blank or a text that is
YAML, and every matrix is such a text. -/
theorem Workflow.yaml_of_isValid {w : Workflow} (hv : w.isValid .builtin = true)
    (hb : b ∈ w.blocks) (hk : Kind.ofTag? b.tag = some k) (hkey : k.yamlKey? = some key) :
    (∀ s, b.text? key = some s → Text.allBlank s = true ∨ (Yaml.read? s).isSome) ∧
      (k = .controlMatrix → ∃ s, b.text? key = some s ∧ Text.allBlank s = false) := by
  obtain ⟨d, hd, f, hf, rfl, htype, hrule, hreq⟩ := Catalog.exists_yamlField hkey
  rw [Kind.tag_of_ofTag? hk] at hd
  obtain ⟨hpresent, hcheck⟩ := Validation.of_fieldFindings (fieldFindings_eq_nil hv hb hd hf)
  constructor
  · intro s hs
    obtain ⟨v, hget, hv⟩ := Option.bind_eq_some_iff.mp hs
    cases v <;> simp only [Json.text?, reduceCtorEq, Option.some.injEq] at hv
    obtain ⟨t, ht, hyaml⟩ := Field.of_check_yaml htype hrule (hcheck _ hget rfl)
    rwa [← hv, Json.str.inj ht]
  · intro hmatrix
    obtain ⟨v, hget, hempty⟩ := hpresent (hreq hmatrix)
    have hnull := Field.isNull_of_isEmptyValue hempty
    obtain ⟨s, rfl, -⟩ := Field.of_check_yaml htype hrule (hcheck v hget hnull)
    exact ⟨s, by rw [Block.text?, hget]; rfl, hempty⟩

end Blockflow
