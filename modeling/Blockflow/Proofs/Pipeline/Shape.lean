import Blockflow.Proofs.Block.Catalog
import Blockflow.Proofs.Pipeline.Jobs
import Blockflow.Proofs.Pipeline.Settings
import Blockflow.Proofs.Yaml.Keys

/-!
# The shape of a document

What a runner asks of a pipeline file before it looks at what it says: some event starts it, there
are jobs, each job has steps, and each step either uses an action or runs a script. The documents of
workflows without problems have this shape, with one exception: a workflow of nothing but triggers
has no jobs.
-/

namespace Blockflow

namespace Yaml

/-- What stands under a key of a mapping. -/
def under? (key : String) (y : Yaml) : Option Yaml := y.entries?.bind (lookup (.str key))

/-- The entries of the mapping under a key, none if there is no such mapping. -/
def entriesUnder (key : String) (y : Yaml) : List (Yaml × Yaml) :=
  ((y.under? key).bind entries?).getD []

/-- The items of the list under a key, none if there is no such list. -/
def itemsUnder (key : String) (y : Yaml) : List Yaml :=
  match y.under? key with
  | some (.seq items) => items
  | _ => []

/-- How many entries of a mapping have a key. -/
def countKey (key : String) (y : Yaml) : Nat :=
  (y.entries?.getD []).countP fun e ↦ sameKey (.str key) e.1

/-- The shape that a runner asks of a pipeline file, whatever jobs there are. -/
structure IsShaped (y : Yaml) : Prop where
  /-- Some event starts it. -/
  events : y.entriesUnder "on" ≠ []
  /-- Each job has a step. -/
  steps : ∀ j ∈ y.entriesUnder "jobs", j.2.itemsUnder "steps" ≠ []
  /-- Each step either uses an action or runs a script. -/
  works : ∀ j ∈ y.entriesUnder "jobs", ∀ s ∈ j.2.itemsUnder "steps",
    s.countKey "uses" + s.countKey "run" = 1

end Yaml

open Yaml

/-! ### What stands under a key -/

namespace Yaml

variable {key other : String} {l m : List (Yaml × Yaml)}

@[simp]
theorem under?_nil : (map []).under? key = none := rfl

@[simp]
theorem under?_append :
    (map (l ++ m)).under? key = ((map l).under? key).or ((map m).under? key) := lookup_append

@[simp]
theorem under?_cons {v : Yaml} : (map ((.str other, v) :: l)).under? key =
    if key = other then some v else (map l).under? key := by
  simp [under?, entries?, lookup_cons, sameKey]

/-- What may be left out stands under its key if it is there. -/
@[simp]
theorem under?_optional {α : Type} {f : α → Yaml} {o : Option α} :
    (map (Yaml.optional other f o)).under? key = if key = other then o.map f else none := by
  cases o with
  | none => exact (ite_self _).symm
  | some a => exact under?_cons

/-- A list stands under its key unless it is empty. -/
@[simp]
theorem under?_entry {items : List String} : (map (EventFilter.entry other items)).under? key =
    if key = other then
      if items.isEmpty then none else some (.seq (items.map .str))
    else none := by
  cases items with
  | nil => exact (ite_self _).symm
  | cons item items => exact under?_cons

end Yaml

/-! ### What stands where in a document -/

theorem Document.entriesUnder_on (d : Document) :
    d.toYaml.entriesUnder "on" = (d.events.toYaml.entries?).getD [] := by
  simp [toYaml, entriesUnder, under?, entries?, lookup, sameKey]

theorem Document.entriesUnder_jobs (d : Document) :
    d.toYaml.entriesUnder "jobs" = d.jobs.map fun j ↦ (.str j.1, j.2.toYaml) := by
  simp [toYaml, entriesUnder, under?, entries?, lookup, sameKey]

/-- No entry of the list has the key. -/
def Yaml.Lacks (key : String) (entries : List (Yaml × Yaml)) : Prop :=
  ∀ e ∈ entries, sameKey (.str key) e.1 = false

namespace Yaml

variable {key other : String} {l m : List (Yaml × Yaml)}

theorem lacks_cons {v : Yaml} : Lacks key ((.str other, v) :: l) ↔ key ≠ other ∧ Lacks key l := by
  simp [Lacks, sameKey]

theorem lacks_nil : Lacks key [] := by simp [Lacks]

theorem lacks_optional {α : Type} {f : α → Yaml} {o : Option α} (h : key ≠ other) :
    Lacks key (Yaml.optional other f o) := by
  cases o with
  | none => exact lacks_nil
  | some a => exact lacks_cons.mpr ⟨h, lacks_nil⟩

/-- An entry that is left out under some condition has no other key either. -/
theorem lacks_unless {c : Prop} [Decidable c] {v : Yaml} (h : key ≠ other) :
    Lacks key (if c then [] else [(.str other, v)]) := by
  split
  · exact lacks_nil
  · exact lacks_cons.mpr ⟨h, lacks_nil⟩

theorem countP_of_lacks (h : Lacks key l) : (l.countP fun e ↦ sameKey (.str key) e.1) = 0 :=
  List.countP_eq_zero.mpr fun e he ↦ by simp [h e he]

end Yaml

/-- The condition of a job stands in the document. -/
theorem Job.under?_if (j : Job) : j.toYaml.under? "if" = j.condition.map .str := by
  simp [toYaml]

/-- How often a job is run stands in the document. -/
theorem Job.under?_strategy (j : Job) : j.toYaml.under? "strategy" = j.strategy.map fun s ↦
    .map [(.str "matrix", s.matrix), (.str "fail-fast", .bool s.failFast)] := by
  simp [toYaml]

theorem Job.itemsUnder_steps (j : Job) :
    j.toYaml.itemsUnder "steps" = j.steps.map Step.toYaml := by
  have hsteps : j.toYaml.under? "steps" = some (.seq (j.steps.map Step.toYaml)) := by
    simp [toYaml]
  rw [itemsUnder, hsteps]

private theorem Step.countKey_eq (s : Step) {key : String} (hname : key ≠ "name")
    (henv : key ≠ "env") :
    s.toYaml.countKey key = (workEntries s.work).countP fun e ↦ sameKey (.str key) e.1 := by
  simp only [toYaml, countKey, entries?, Option.getD_some, List.cons_append, List.countP_append,
    countP_of_lacks (lacks_unless henv), Nat.add_zero, List.countP_cons, sameKey, hname,
    beq_iff_eq, if_false]

/-- A step has one entry for what it does. -/
theorem Step.countKey_work (s : Step) : s.toYaml.countKey "uses" + s.toYaml.countKey "run" = 1 := by
  rw [s.countKey_eq (by decide) (by decide), s.countKey_eq (by decide) (by decide)]
  cases s.work with
  | use action inputs =>
    rw [workEntries, List.countP_cons, List.countP_cons, countP_of_lacks (lacks_unless (by decide)),
      countP_of_lacks (lacks_unless (by decide))]
    simp [sameKey]
  | run script directory =>
    rw [workEntries, List.countP_cons, List.countP_cons,
      countP_of_lacks (lacks_optional (by decide)), countP_of_lacks (lacks_optional (by decide))]
    simp [sameKey]

/-! ### Every trigger starts a pipeline -/

namespace Events

variable {e f : Events} {b : Block}

/-- Whether there is any event. -/
def IsSome (e : Events) : Prop :=
  e.push.isSome ∨ e.pullRequest.isSome ∨ e.schedule.isSome ∨ e.dispatch.isSome ∨ e.release.isSome

theorem entries_ne_nil (h : e.IsSome) : (e.toYaml.entries?).getD [] ≠ [] := by
  obtain ⟨push, pullRequest, schedule, dispatch, release⟩ := e
  intro hnil
  simp only [toYaml, entries?, Option.getD_some, List.append_eq_nil_iff] at hnil
  obtain ⟨⟨⟨⟨hpush, hpull⟩, hschedule⟩, hdispatch⟩, hrelease⟩ := hnil
  rcases h with h | h | h | h | h <;> obtain ⟨a, rfl⟩ := Option.isSome_iff_exists.mp h <;>
    simp_all [Yaml.optional]

/-- A trigger adds an event, unless it is a schedule that does not say when. -/
theorem isSome_of_add? {k : Kind} (hadd : e.add? b = some f) (hk : Kind.ofTag? b.tag = some k)
    (htrigger : Registry.builtin.isTrigger k.tag = true)
    (hcron : k = .triggerSchedule → (b.filled? "cron").isSome) : f.IsSome := by
  unfold add? at hadd
  rw [hk] at hadd
  cases k with
  | triggerPush =>
    obtain rfl := Option.some.inj hadd
    exact .inl rfl
  | triggerPr =>
    obtain rfl := Option.some.inj hadd
    exact .inr (.inl rfl)
  | triggerSchedule =>
    obtain ⟨cron, hcron⟩ := Option.isSome_iff_exists.mp (hcron rfl)
    rw [hcron] at hadd
    obtain rfl := Option.some.inj hadd
    exact .inr (.inr (.inl rfl))
  | triggerManual =>
    have hdispatch : f.dispatch.isSome := by
      cases hinputs : b.filled? "inputs" with
      | none =>
        simp only [hinputs, Option.some.injEq] at hadd
        rw [← hadd]
        rfl
      | some source =>
        simp only [hinputs, Option.map_eq_some_iff] at hadd
        obtain ⟨inputs, -, rfl⟩ := hadd
        rfl
    exact .inr (.inr (.inr (.inl hdispatch)))
  | triggerRelease =>
    obtain rfl := Option.some.inj hadd
    exact .inr (.inr (.inr (.inr rfl)))
  | _ => exact absurd htrigger (by decide)

private theorem eq_of_add? {k : Kind} (hadd : e.add? b = some f)
    (hk : Kind.ofTag? b.tag = some k) (htrigger : Registry.builtin.isTrigger k.tag = false) :
    f = e := by
  unfold add? at hadd
  rw [hk] at hadd
  cases k
  case triggerPush | triggerPr | triggerSchedule | triggerManual | triggerRelease =>
    exact absurd htrigger (by decide)
  all_goals exact (Option.some.inj hadd).symm

/-- Nothing that is added takes an event away. -/
theorem IsSome.add? (h : e.IsSome) (hadd : e.add? b = some f) : f.IsSome := by
  cases hk : Kind.ofTag? b.tag with
  | none =>
    rw [Events.add?, hk] at hadd
    exact Option.some.inj hadd ▸ h
  | some k =>
    cases htrigger : Registry.builtin.isTrigger k.tag with
    | false => exact eq_of_add? hadd hk htrigger ▸ h
    | true =>
      by_cases hcron : k = .triggerSchedule → (b.filled? "cron").isSome
      · exact isSome_of_add? hadd hk htrigger hcron
      · -- a schedule that does not say when is passed by
        obtain ⟨rfl, hnone⟩ := Classical.not_imp.mp hcron
        rw [Events.add?, hk, Option.not_isSome_iff_eq_none.mp hnone] at hadd
        exact Option.some.inj hadd ▸ h

private theorem IsSome.foldlM {l : List Block} (h : e.IsSome)
    (hadd : l.foldlM Events.add? e = some f) : f.IsSome := by
  induction l generalizing e with
  | nil => exact Option.some.inj hadd ▸ h
  | cons b l ih =>
    rw [List.foldlM_cons] at hadd
    obtain ⟨next, hnext, hrest⟩ := Option.bind_eq_some_iff.mp hadd
    exact ih (h.add? hnext) hrest

end Events

/-! ### What a workflow without problems promises -/

/-- A value that a field for a line of text accepts is a text. -/
theorem Field.exists_str_of_check {f : Field} {v : Json} (ht : f.type = .text)
    (h : f.check v = .ok ()) : ∃ s, v = .str s := by
  cases v with
  | str s => exact ⟨s, rfl⟩
  | _ => simp only [check, ht, reduceCtorEq] at h

/-- The setting of a required line of text is a text that is not blank. -/
theorem Workflow.filled?_of_isValid {w : Workflow} {r : Registry} {b : Block} {d : Definition}
    {f : Field} (hv : w.isValid r = true) (hb : b ∈ w.blocks) (hd : r.get? b.tag = some d)
    (hf : f ∈ d.fields) (ht : f.type = .text) (hreq : f.required = true) :
    (b.filled? f.key).isSome := by
  obtain ⟨hpresent, hcheck⟩ := Validation.of_fieldFindings (fieldFindings_eq_nil hv hb hd hf)
  obtain ⟨v, hget, hempty⟩ := hpresent hreq
  have hnull := Field.isNull_of_isEmptyValue hempty
  obtain ⟨s, rfl⟩ := Field.exists_str_of_check ht (hcheck v hget hnull)
  have hblank : Text.allBlank s = false := hempty
  have htext : b.text? f.key = some s := by
    rw [Block.text?, hget]
    rfl
  rw [Block.filled?, htext, Option.bind_some, Text.nonBlank?_eq_some.mpr ⟨hblank, rfl⟩]
  rfl

namespace Workflow

variable {w : Workflow} {r : Registry} {d : Document} {names : NameMap}

theorem triggers_ne_nil (hv : w.isValid r = true) : w.triggers r ≠ [] := by
  simp only [isValid, findings, List.isEmpty_iff, List.append_eq_nil_iff] at hv
  have htrigger := hv.2
  intro hnil
  simp [Validation.triggerFindings, hnil] at htrigger

theorem isSome_cron {b : Block} (hv : w.isValid .builtin = true) (hb : b ∈ w.blocks)
    (hk : Kind.ofTag? b.tag = some .triggerSchedule) : (b.filled? "cron").isSome := by
  have hd : Registry.builtin.get? b.tag = some (Catalog.trigger .triggerSchedule "Schedule"
      "Triggered on a schedule (cron)" [Catalog.cronField]) := by
    rw [← Kind.tag_of_ofTag? hk]
    rfl
  exact filled?_of_isValid hv hb hd (List.mem_singleton.mpr rfl) rfl rfl

/-- Of a workflow without problems, some event starts the pipeline. -/
theorem isSome_events (hv : w.isValid .builtin = true) {e : Events}
    (he : w.events? .builtin = some e) : e.IsSome := by
  rw [events?] at he
  cases hsorted : w.sortedTriggers .builtin with
  | nil =>
    obtain ⟨b, hb⟩ := List.exists_mem_of_ne_nil _ (triggers_ne_nil hv)
    have hmem : b ∈ w.sortedTriggers .builtin := List.mem_mergeSort.mpr hb
    rw [hsorted] at hmem
    cases hmem
  | cons b rest =>
    have hb : b ∈ w.triggers .builtin :=
      List.mem_mergeSort.mp (hsorted ▸ List.mem_cons_self : b ∈ w.sortedTriggers .builtin)
    obtain ⟨hmem, htrigger⟩ := List.mem_filter.mp hb
    obtain ⟨d, hd, -⟩ := (Option.any_eq_true ..).mp htrigger
    have hk := Registry.ofTag?_of_get? hd
    rw [hsorted, List.foldlM_cons] at he
    obtain ⟨first, hfirst, hrest⟩ := Option.bind_eq_some_iff.mp he
    refine (Events.isSome_of_add? hfirst hk ?_ fun hschedule ↦ ?_).foldlM hrest
    · rwa [Kind.tag_of_ofTag? hk]
    · exact isSome_cron hv hmem (hschedule ▸ hk)

/-- Where no step comes before itself, there are jobs exactly if there are steps. -/
theorem plan_eq_nil_iff (ha : (StepGraph.ofWorkflow w r).Acyclic) :
    w.plan r = [] ↔ w.steps r = [] := by
  have hplan := isPlanOf_plan ha
  constructor
  · intro hnil
    by_contra hsteps
    obtain ⟨b, hb⟩ := List.exists_mem_of_ne_nil _ hsteps
    obtain ⟨c, hc⟩ := exists_lastStep? (mem_stepIds.mpr ⟨b, hb, rfl⟩)
    have hid := (of_lastStep?_eq_some hc).2
    obtain ⟨j, hj, -⟩ := hplan.exists_job ((mem_orderedSteps ha).mpr (hid.symm ▸ hc))
    rw [hnil] at hj
    cases hj
  · intro hnil
    by_contra hjobs
    obtain ⟨j, hj⟩ := List.exists_mem_of_ne_nil _ hjobs
    have hdone := hplan.mem_done hj (hplan.opener j hj)
    have hmem := (of_lastStep?_eq_some ((mem_orderedSteps ha).mp hdone)).1
    rw [hnil] at hmem
    cases hmem

/-- Each job of a document has a step. -/
theorem steps_ne_nil_of_document? (h : w.document? r = some (d, names)) :
    ∀ j ∈ d.jobs, j.2.steps ≠ [] := by
  refine (forall_iff_of_forall₂ (document?_emits h) fun planned _ j hemits ↦
    iff_true_intro ?_).mpr fun _ _ ↦ trivial
  obtain ⟨steps, -, hsteps⟩ := hemits.steps
  rw [hsteps]
  split
  · exact List.cons_ne_nil _ _
  · next hfilled => simpa using hfilled

/-- The document of a workflow without problems has the shape that a runner asks for, but for its
jobs; and there is a job exactly if there is a block that is no trigger. -/
theorem isShaped_of_compile (w : Workflow) (p : Pipeline) (h : w.compile .builtin = .ok p) :
    ∃ d, w.document? .builtin = some (d, p.names) ∧ d.toYaml.text? = some p.text ∧
      d.toYaml.IsShaped ∧ (d.toYaml.entriesUnder "jobs" ≠ [] ↔ w.steps .builtin ≠ []) := by
  obtain ⟨hv, d, hd, htext⟩ := compile_eq_ok_iff.mp h
  refine ⟨d, hd, htext, ⟨?_, ?_, ?_⟩, ?_⟩
  · rw [d.entriesUnder_on]
    exact Events.entries_ne_nil (isSome_events hv (document?_events hd))
  · rw [d.entriesUnder_jobs, List.forall_mem_map]
    intro j hj
    rw [j.2.itemsUnder_steps, ne_eq, List.map_eq_nil_iff]
    exact steps_ne_nil_of_document? hd j hj
  · rw [d.entriesUnder_jobs, List.forall_mem_map]
    intro j hj
    rw [j.2.itemsUnder_steps, List.forall_mem_map]
    exact fun s _ ↦ s.countKey_work
  · have hlength := (document?_emits hd).length_eq
    rw [d.entriesUnder_jobs, ne_eq, List.map_eq_nil_iff, ne_eq,
      ← plan_eq_nil_iff (acyclic_of_isValid hv), ← List.length_eq_zero_iff, ← hlength,
      List.length_eq_zero_iff]

/-- A trigger for commits, and the given blocks each of which comes right after it. -/
private def pushedTo (steps : List Block) : Workflow where
  id := "wf"
  name := "CI"
  description := ""
  blocks := ⟨"t", Kind.triggerPush.tag, .origin, .empty, none⟩ :: steps
  connections := steps.map fun b ↦ ⟨b.id, "t", "out", b.id, "in"⟩

/-- A control block without steps of its own. -/
private def waiting : Block := ⟨"w", Kind.controlWait.tag, .origin, .empty, none⟩

theorem isShaped_waiting : ∃ p d, (pushedTo [waiting]).compile .builtin = .ok p ∧
    (pushedTo [waiting]).document? .builtin = some (d, p.names) ∧ d.toYaml.text? = some p.text ∧
      d.toYaml.IsShaped ∧ d.toYaml.entriesUnder "jobs" ≠ [] := by
  have hok : ((pushedTo [waiting]).compile .builtin).isOk = true := by decide +kernel
  have hsteps : (pushedTo [waiting]).steps .builtin ≠ [] := by decide +kernel
  obtain ⟨p, hp⟩ := exists_compile_eq_ok hok
  obtain ⟨d, hd, htext, hshaped, hjobs⟩ := isShaped_of_compile (pushedTo [waiting]) p hp
  exact ⟨p, d, hp, hd, htext, hshaped, hjobs.mpr hsteps⟩

/-- A workflow of nothing but a trigger is found to be without problems, and it compiles to a
document without jobs. -/
theorem entriesUnder_jobs_trigger : (pushedTo []).isValid .builtin = true ∧
    ∃ p d, (pushedTo []).compile .builtin = .ok p ∧
      (pushedTo []).document? .builtin = some (d, p.names) ∧ d.toYaml.text? = some p.text ∧
      d.toYaml.entriesUnder "jobs" = [] := by
  have hok : ((pushedTo []).compile .builtin).isOk = true := by decide +kernel
  obtain ⟨p, hp⟩ := exists_compile_eq_ok hok
  obtain ⟨hv, d, hd, htext⟩ := compile_eq_ok_iff.mp hp
  have hjobs : ((pushedTo []).document? .builtin).map
      (fun d ↦ (d.1.toYaml.entriesUnder "jobs").isEmpty) = some true := by decide +kernel
  rw [hd, Option.map_some, Option.some.injEq, List.isEmpty_iff] at hjobs
  exact ⟨hv, p, d, hp, hd, htext, hjobs⟩

end Workflow

end Blockflow
