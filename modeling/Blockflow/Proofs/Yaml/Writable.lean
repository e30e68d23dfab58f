import Blockflow.Pipeline.Document
import Blockflow.Yaml.Writer

/-!
# What can be written

Mappings whose keys are texts can be written if their values can, and so can whatever stands for a
JSON value. Of a pipeline document only the inputs of a start by hand and the matrices of jobs are
values that someone else has chosen.
-/

namespace Blockflow

namespace Yaml

theorem isSome_text? {v : Yaml} : v.text?.isSome ↔ v.isWritable = true := by
  unfold text?
  split <;> simp_all

/-- A list can be written if its items can. -/
theorem isWritable_seq {items : List Yaml} :
    (seq items).isWritable = true ↔ ∀ v ∈ items, v.isWritable = true := by
  rw [isWritable]
  induction items with
  | nil => simp [areWritable]
  | cons v items ih => simp [areWritable, ih]

/-- Whether all keys of a mapping are texts. -/
def HasTextKeys (entries : List (Yaml × Yaml)) : Prop := ∀ e ∈ entries, ∃ s, e.1 = .str s

theorem hasTextKeys_nil : HasTextKeys [] := by simp [HasTextKeys]

theorem hasTextKeys_cons {s : String} {v : Yaml} {entries : List (Yaml × Yaml)} :
    HasTextKeys ((.str s, v) :: entries) ↔ HasTextKeys entries := by simp [HasTextKeys]

theorem hasTextKeys_append {l m : List (Yaml × Yaml)} :
    HasTextKeys (l ++ m) ↔ HasTextKeys l ∧ HasTextKeys m := by
  simp only [HasTextKeys, List.mem_append, or_imp, forall_and]

theorem hasTextKeys_optional {α : Type} (key : String) (toYaml : α → Yaml) (o : Option α) :
    HasTextKeys (optional key toYaml o) := by
  cases o <;> simp [optional, HasTextKeys]

theorem hasTextKeys_map {α : Type} (key : α → String) (value : α → Yaml) (l : List α) :
    HasTextKeys (l.map fun a ↦ (.str (key a), value a)) := by simp [HasTextKeys]

private theorem entriesWritable_iff {entries : List (Yaml × Yaml)} (h : HasTextKeys entries) :
    entriesWritable entries = true ↔ ∀ e ∈ entries, e.2.isWritable = true := by
  induction entries with
  | nil => simp [entriesWritable]
  | cons e entries ih =>
    obtain ⟨k, v⟩ := e
    obtain ⟨s, rfl⟩ := h _ List.mem_cons_self
    simp [entriesWritable, isWritable, ih (hasTextKeys_cons.mp h)]

/-- A mapping whose keys are texts can be written if its values can. -/
theorem isWritable_map {entries : List (Yaml × Yaml)} (h : HasTextKeys entries) :
    (map entries).isWritable = true ↔ ∀ e ∈ entries, e.2.isWritable = true := by
  match entries with
  | [(k, v)] =>
    obtain ⟨s, rfl⟩ := h _ List.mem_cons_self
    simp [isWritable, isLoneKey]
  | [] | _ :: _ :: _ => simpa [isWritable] using entriesWritable_iff h

/-- An optional entry can be written if the value can, where there is one. -/
theorem forall_mem_optional {α : Type} {key : String} {toYaml : α → Yaml} {o : Option α} :
    (∀ e ∈ optional key toYaml o, e.2.isWritable = true) ↔
      ∀ a, o = some a → (toYaml a).isWritable = true := by
  cases o <;> simp [optional]

mutual

/-- Whatever stands for a JSON value can be written. -/
theorem isWritable_ofJson : ∀ j : Json, (ofJson j).isWritable = true
  | .null | .bool _ | .num (.int _) | .num (.real _) | .str _ => rfl
  | .arr items => isWritable_seq.mpr (isWritable_ofJsonItems items)
  | .obj members =>
    (isWritable_map (hasTextKeys_ofJsonMembers members)).mpr (isWritable_ofJsonMembers members)

private theorem isWritable_ofJsonItems :
    ∀ items : List Json, ∀ v ∈ ofJsonItems items, v.isWritable = true
  | [] => by simp [ofJsonItems]
  | item :: items => by
    rw [ofJsonItems, List.forall_mem_cons]
    exact ⟨isWritable_ofJson item, isWritable_ofJsonItems items⟩

private theorem isWritable_ofJsonMembers :
    ∀ members : List (String × Json), ∀ e ∈ ofJsonMembers members, e.2.isWritable = true
  | [] => by simp [ofJsonMembers]
  | (_, value) :: members => by
    rw [ofJsonMembers, List.forall_mem_cons]
    exact ⟨isWritable_ofJson value, isWritable_ofJsonMembers members⟩

private theorem hasTextKeys_ofJsonMembers :
    ∀ members : List (String × Json), HasTextKeys (ofJsonMembers members)
  | [] => hasTextKeys_nil
  | (_, _) :: members => hasTextKeys_cons.mpr (hasTextKeys_ofJsonMembers members)

end

end Yaml

open Yaml

namespace EventFilter

private theorem hasTextKeys_entry (key : String) (l : List String) :
    HasTextKeys (entry key l) := by
  unfold entry
  split <;> simp [HasTextKeys]

private theorem isWritable_entry (key : String) (l : List String) :
    ∀ e ∈ entry key l, e.2.isWritable = true := by
  unfold entry
  split
  · simp
  · rw [List.forall_mem_singleton]
    exact isWritable_seq.mpr (List.forall_mem_map.mpr fun _ _ ↦ rfl)

theorem isWritable_toYaml (f : EventFilter) : f.toYaml.isWritable = true := by
  have hkeys : HasTextKeys
      (entry "types" f.types ++ entry "branches" f.branches ++ entry "paths" f.paths) := by
    simp only [hasTextKeys_append, hasTextKeys_entry, and_self]
  refine (isWritable_map hkeys).mpr ?_
  simp only [List.forall_mem_append]
  exact ⟨⟨isWritable_entry _ _, isWritable_entry _ _⟩, isWritable_entry _ _⟩

end EventFilter

/-- The events of a document can be written if the inputs of a start by hand can. -/
theorem Events.isWritable_toYaml {e : Events} : e.toYaml.isWritable = true ↔
    ∀ d, e.dispatch = some d → ∀ y, d.inputs = some y → y.isWritable = true := by
  have hkeys (d : Dispatch) := hasTextKeys_optional "inputs" id d.inputs
  have hcron (l : List String) :
      (Yaml.seq (l.map fun c ↦ .map [(.str "cron", .str c)])).isWritable = true :=
    isWritable_seq.mpr (List.forall_mem_map.mpr fun _ _ ↦ rfl)
  rw [toYaml, isWritable_map (by simp only [hasTextKeys_append, hasTextKeys_optional, and_self])]
  simp only [List.forall_mem_append, forall_mem_optional, EventFilter.isWritable_toYaml, hcron,
    isWritable_map (hkeys _), implies_true, and_true, true_and, id]

namespace Step

private theorem isWritable_inputs (inputs : Dict Json) :
    (Yaml.map (inputs.entries.map fun e ↦ (.str e.1, .ofJson e.2))).isWritable = true :=
  (isWritable_map (hasTextKeys_map Prod.fst (fun e ↦ ofJson e.2) inputs.entries)).mpr
    (List.forall_mem_map.mpr fun e _ ↦ isWritable_ofJson e.2)

private theorem isWritable_env (env : Dict String) :
    (Yaml.map (env.entries.map fun e ↦ (.str e.1, .str e.2))).isWritable = true :=
  (isWritable_map (hasTextKeys_map Prod.fst (fun e ↦ .str e.2) env.entries)).mpr
    (List.forall_mem_map.mpr fun _ _ ↦ rfl)

private theorem hasTextKeys_workEntries : ∀ work : Work, HasTextKeys (workEntries work)
  | .use action inputs => by
    rw [workEntries, hasTextKeys_cons]
    split <;> simp [HasTextKeys]
  | .run script directory => hasTextKeys_cons.mpr (hasTextKeys_optional _ _ _)

private theorem isWritable_workEntries :
    ∀ work : Work, ∀ e ∈ workEntries work, e.2.isWritable = true
  | .use action inputs => by
    rw [workEntries, List.forall_mem_cons]
    refine ⟨rfl, ?_⟩
    split
    · simp
    · exact List.forall_mem_singleton.mpr (isWritable_inputs inputs)
  | .run script directory => by
    rw [workEntries, List.forall_mem_cons, forall_mem_optional]
    exact ⟨rfl, fun _ _ ↦ rfl⟩

theorem isWritable_toYaml (s : Step) : s.toYaml.isWritable = true := by
  have hname : HasTextKeys ((.str "name", .str s.name) :: workEntries s.work) :=
    hasTextKeys_cons.mpr (hasTextKeys_workEntries s.work)
  have hwork : ∀ e ∈ (.str "name", .str s.name) :: workEntries s.work, e.2.isWritable = true :=
    List.forall_mem_cons.mpr ⟨rfl, isWritable_workEntries s.work⟩
  unfold toYaml
  split
  · rw [List.append_nil]
    exact (isWritable_map hname).mpr hwork
  · rw [isWritable_map (hasTextKeys_append.mpr ⟨hname, hasTextKeys_cons.mpr hasTextKeys_nil⟩)]
    exact List.forall_mem_append.mpr
      ⟨hwork, List.forall_mem_singleton.mpr (isWritable_env s.env)⟩

end Step

/-- A job of a document can be written if its matrix can. -/
theorem Job.isWritable_toYaml {j : Job} : j.toYaml.isWritable = true ↔
    ∀ s, j.strategy = some s → s.matrix.isWritable = true := by
  have hsteps : (Yaml.seq (j.steps.map Step.toYaml)).isWritable = true :=
    isWritable_seq.mpr (List.forall_mem_map.mpr fun s _ ↦ s.isWritable_toYaml)
  have hstrategy (s : Strategy) :
      (Yaml.map [(.str "matrix", s.matrix), (.str "fail-fast", .bool s.failFast)]).isWritable =
        true ↔ s.matrix.isWritable = true := by
    rw [isWritable_map (by simp [HasTextKeys])]
    simp [isWritable]
  have hneeds := iff_true_intro (EventFilter.isWritable_entry "needs" j.needs)
  rw [toYaml, isWritable_map]
  · simp only [List.cons_append, List.forall_mem_cons, List.forall_mem_append, forall_mem_optional,
      hneeds, hsteps, hstrategy]
    simp [isWritable]
  · simp only [List.cons_append, hasTextKeys_cons, hasTextKeys_append, hasTextKeys_optional,
      EventFilter.hasTextKeys_entry, hasTextKeys_nil, and_self]

/-- A document can be written if the inputs of a start by hand and all matrices can. -/
theorem Document.isWritable_toYaml {d : Document} : d.toYaml.isWritable = true ↔
    d.events.toYaml.isWritable = true ∧ ∀ j ∈ d.jobs, j.2.toYaml.isWritable = true := by
  have hjobs := hasTextKeys_map Prod.fst (fun j : String × Job ↦ j.2.toYaml) d.jobs
  rw [toYaml, isWritable_map (by simp [HasTextKeys])]
  simp only [List.forall_mem_cons, isWritable_map hjobs, List.forall_mem_map]
  simp [isWritable]

end Blockflow
