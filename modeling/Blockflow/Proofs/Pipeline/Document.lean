import Blockflow.Pipeline.Compile
import Mathlib.Data.List.Forall2

/-!
# From the plan to the document

A document has one job for each planned one, in the same order: under its key, with its needs, and
with the steps of its blocks one after the other.
-/

namespace Blockflow

/-- A list is mapped by a function that may fail exactly if it succeeds on every member. -/
theorem mapM_eq_some_iff {α β : Type} {f : α → Option β} {l : List α} {m : List β} :
    l.mapM f = some m ↔ List.Forall₂ (fun a b ↦ f a = some b) l m := by
  induction l generalizing m with
  | nil => simp [eq_comm]
  | cons a l ih =>
    simp only [List.mapM_cons, Option.bind_eq_bind, Option.pure_def, Option.bind_eq_some_iff,
      Option.some.injEq, List.forall₂_cons_left_iff, ih]
    constructor
    · rintro ⟨b, hb, m, hm, rfl⟩
      exact ⟨b, m, hb, hm, rfl⟩
    · rintro ⟨b, m, hb, hm, rfl⟩
      exact ⟨b, hb, m, hm, rfl⟩

/-- Whatever is known of the result of a function that may fail is known of every member. -/
theorem map_eq_map_of_mapM {α β γ : Type} {f : α → Option β} {k : β → γ} {g : α → γ} {l : List α}
    {m : List β} (h : l.mapM f = some m) (hg : ∀ a b, f a = some b → k b = g a) :
    m.map k = l.map g := by
  rw [mapM_eq_some_iff] at h
  induction h with
  | nil => rfl
  | cons hab _ ih => rw [List.map_cons, List.map_cons, hg _ _ hab, ih]

/-- Mapping a list by a function that may fail succeeds if the function does on every member. -/
theorem isSome_mapM {α β : Type} {f : α → Option β} {l : List α} :
    (l.mapM f).isSome ↔ ∀ a ∈ l, (f a).isSome := by
  induction l with
  | nil => simp
  | cons a l ih =>
    rw [List.mapM_cons, List.forall_mem_cons, ← ih]
    cases f a with
    | none => simp
    | some b => cases l.mapM f <;> simp

/-- Folding a list by a function that may fail, whatever has come before, succeeds if the function
does on every member. -/
theorem isSome_foldlM {α β : Type} {f : β → α → Option β} {p : α → Prop}
    (h : ∀ b a, (f b a).isSome ↔ p a) {l : List α} (b : β) :
    (l.foldlM f b).isSome ↔ ∀ a ∈ l, p a := by
  induction l generalizing b with
  | nil => simp
  | cons a l ih =>
    rw [List.foldlM_cons, List.forall_mem_cons, ← h b a]
    cases f b a with
    | none => simp
    | some c => simpa using ih c

/-- What is said of the members of one list and of what they are related to is said together. -/
theorem forall_iff_of_forall₂ {α β : Type} {rel : α → β → Prop} {p : α → Prop} {q : β → Prop}
    {l : List α} {m : List β} (h : List.Forall₂ rel l m)
    (hpq : ∀ a ∈ l, ∀ b, rel a b → (q b ↔ p a)) : (∀ b ∈ m, q b) ↔ ∀ a ∈ l, p a := by
  induction h with
  | nil => simp
  | cons hab _ ih =>
    rw [List.forall_mem_cons, List.forall_mem_cons, hpq _ List.mem_cons_self _ hab,
      ih fun a ha ↦ hpq a (List.mem_cons_of_mem _ ha)]

/-- What a member of one list is related to is a member of the other one. -/
theorem exists_of_forall₂ {α β : Type} {rel : α → β → Prop} {l : List α} {m : List β} {a : α}
    (h : List.Forall₂ rel l m) (ha : a ∈ l) : ∃ b ∈ m, rel a b := by
  induction h with
  | nil => cases ha
  | cons hab _ ih =>
    rcases List.mem_cons.mp ha with rfl | ha
    · exact ⟨_, List.mem_cons_self, hab⟩
    · obtain ⟨b, hb, hrel⟩ := ih ha
      exact ⟨b, List.mem_cons_of_mem _ hb, hrel⟩

namespace Compile

variable {r : Registry} {j : PlannedJob} {f : FilledJob}

/-- What a planned job and its entry in the document have in common. -/
structure Emits (r : Registry) (j : PlannedJob) (entry : String × Job) : Prop where
  /-- The entry stands under the key of the job. -/
  key : entry.1 = j.key
  /-- It needs what was planned. -/
  needs : entry.2.needs = j.needs
  /-- It is run several times as the opener of the job says. -/
  strategy : strategy? j.opener = some entry.2.strategy
  /-- Its steps are those of the blocks in order; a job without any has a step of its own. -/
  steps : ∃ steps, j.blocks.mapM Block.steps? = some steps ∧
    entry.2.steps =
      if steps.flatten.isEmpty then [placeholder r j.opener] else steps.flatten

private theorem mapM_steps? {blocks : List Block} {filled : List (List (String × Step))}
    (h : (blocks.mapM fun b ↦ do
      let steps ← b.steps?
      return steps.map (b.id, ·)) = some filled) :
    blocks.mapM Block.steps? = some (filled.map (List.map (·.2))) := by
  rw [mapM_eq_some_iff] at h ⊢
  induction h with
  | nil => exact .nil
  | cons hb _ ih =>
    refine .cons ?_ ih
    simp only [Option.bind_eq_bind, Option.pure_def, Option.bind_eq_some_iff,
      Option.some.injEq] at hb
    obtain ⟨steps, hsteps, rfl⟩ := hb
    simp [hsteps, Function.comp_def]

/-- A filled job holds what was planned, and the steps of the planned blocks. -/
theorem of_fill?_eq_some (h : fill? j = some f) :
    f.plan = j ∧ ∃ steps, j.blocks.mapM Block.steps? = some steps ∧
      f.steps.map (·.2) = steps.flatten := by
  simp only [fill?, Option.bind_eq_bind, Option.pure_def, Option.bind_eq_some_iff,
    Option.some.injEq] at h
  obtain ⟨filled, hfilled, rfl⟩ := h
  exact ⟨rfl, _, mapM_steps? hfilled, List.map_flatten⟩

private theorem emits_of_job? {entry : String × Job} (hf : fill? j = some f)
    (h : job? r f = some entry) : Emits r j entry := by
  obtain ⟨rfl, steps, hsteps, hflat⟩ := of_fill?_eq_some hf
  simp only [job?, Option.bind_eq_bind, Option.pure_def, Option.bind_eq_some_iff,
    Option.some.injEq] at h
  obtain ⟨strategy, hstrategy, rfl⟩ := h
  exact ⟨rfl, rfl, hstrategy, steps, hsteps, by rw [hflat]⟩

/-- The keys of the jobs are those that were planned. -/
theorem map_key_of_emits {plan : List PlannedJob} {jobs : List (String × Job)}
    (h : List.Forall₂ (Emits r) plan jobs) : jobs.map (·.1) = plan.map (·.key) := by
  induction h with
  | nil => rfl
  | cons hj _ ih => rw [List.map_cons, List.map_cons, ih, hj.key]

theorem isSome_fill? : (fill? j).isSome ↔ ∀ b ∈ j.blocks, b.steps?.isSome := by
  have hblock (b : Block) :
      (b.steps? >>= fun steps ↦ pure (steps.map (b.id, ·))).isSome = b.steps?.isSome := by
    cases b.steps? <;> rfl
  rw [fill?, bind_pure_comp, Option.map_eq_map, Option.isSome_map, isSome_mapM]
  simp only [hblock]

theorem map_plan_of_mapM_fill? {jobs : List PlannedJob} {filled : List FilledJob}
    (h : jobs.mapM fill? = some filled) : filled.map (·.plan) = jobs := by
  rw [map_eq_map_of_mapM h fun _ _ hj ↦ (of_fill?_eq_some hj).1, List.map_id']

theorem isSome_job? : (job? r f).isSome ↔ (strategy? f.plan.opener).isSome := by
  unfold job?
  cases strategy? f.plan.opener <;> simp

end Compile

open Compile

namespace Workflow

variable {w : Workflow} {r : Registry} {d : Document} {names : NameMap} {p : Pipeline}

/-- The jobs of a document are the planned ones. -/
theorem document?_emits (h : w.document? r = some (d, names)) :
    List.Forall₂ (Emits r) (w.plan r) d.jobs := by
  simp only [document?, Option.bind_eq_bind, Option.pure_def, Option.bind_eq_some_iff,
    Option.some.injEq, Prod.mk.injEq] at h
  obtain ⟨events, -, filled, hfilled, jobs, hjobs, rfl, -⟩ := h
  rw [mapM_eq_some_iff] at hfilled hjobs
  refine List.forall₂_iff_get.mpr ⟨hfilled.length_eq.trans hjobs.length_eq, fun i hp hj ↦ ?_⟩
  have hf : i < filled.length := hfilled.length_eq ▸ hp
  exact emits_of_job? (hfilled.get hp hf) (hjobs.get hf hj)

/-- The events of a document are those of the triggers. -/
theorem document?_events (h : w.document? r = some (d, names)) : w.events? r = some d.events := by
  simp only [document?, Option.bind_eq_bind, Option.pure_def, Option.bind_eq_some_iff,
    Option.some.injEq, Prod.mk.injEq] at h
  obtain ⟨events, hevents, filled, -, jobs, -, rfl, -⟩ := h
  exact hevents

/-- A document can be made if its events, the steps of all jobs and what their openers say can. -/
theorem isSome_document? : (w.document? r).isSome ↔ (w.events? r).isSome ∧
    (∀ j ∈ w.plan r, ∀ b ∈ j.blocks, b.steps?.isSome) ∧
    ∀ j ∈ w.plan r, (strategy? j.opener).isSome := by
  have hfill : ((w.plan r).mapM fill?).isSome ↔
      ∀ j ∈ w.plan r, ∀ b ∈ j.blocks, b.steps?.isSome := by
    simp only [isSome_mapM, isSome_fill?]
  rw [← hfill, document?]
  cases w.events? r with
  | none => simp
  | some events =>
    cases hfilled : (w.plan r).mapM fill? with
    | none => simp
    | some filled =>
      have hjobs : (filled.mapM (job? r)).isSome ↔
          ∀ j ∈ w.plan r, (strategy? j.opener).isSome := by
        rw [isSome_mapM, ← map_plan_of_mapM_fill? hfilled, List.forall_mem_map]
        simp only [isSome_job?]
      rw [← hjobs]
      cases hmade : filled.mapM (job? r) <;> simp [hmade]

/-- A workflow compiles exactly if it has no problems and its document can be made and written. -/
theorem compile_eq_ok_iff :
    w.compile r = .ok p ↔ w.isValid r = true ∧
      ∃ d, w.document? r = some (d, p.names) ∧ d.toYaml.text? = some p.text := by
  obtain ⟨text, names⟩ := p
  unfold compile
  split
  · next hv =>
    cases hd : w.document? r with
    | none => simp
    | some made =>
      obtain ⟨d, m⟩ := made
      cases ht : d.toYaml.text? with
      | none => simp [ht]
      | some t => simp [hv, ht, and_comm]
  · next hv => simp [hv]

theorem exists_compile_eq_ok (h : (w.compile r).isOk = true) : ∃ p, w.compile r = .ok p := by
  cases hw : w.compile r with
  | ok p => exact ⟨p, rfl⟩
  | error e =>
    rw [hw] at h
    cases h

end Workflow

end Blockflow
