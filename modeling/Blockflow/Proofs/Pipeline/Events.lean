import Blockflow.Proofs.Pipeline.Filters
import Blockflow.Proofs.Pipeline.Shape
import Blockflow.Proofs.Pipeline.Storage
import Blockflow.Proofs.Pipeline.Success
import Blockflow.Proofs.Yaml.Keys
import Mathlib.Data.String.Basic

/-!
# What the triggers of a workflow come to

The events that start a pipeline come from all trigger blocks together, in the order of their ids.
Filters of one kind are put together list by list, points in time are listed one behind the other,
and each input of a start by hand has the value that the first block gives it.
-/

namespace Blockflow

/-! ### What a block says -/

namespace Block

/-- The parts of a setting between commas, without blanks at their ends and without empty ones. -/
def parts (b : Block) (key : String) : List String :=
  ((((b.string? key).getD "").toList.splitOn ',').map fun cs ↦
    Text.trim (String.ofList cs)).filter (· ≠ "")

/-- What the inputs of a block stand for, if it has any. -/
def inputs? (b : Block) : Option Yaml := (b.trimmed? "inputs").bind Yaml.read?

/-- The value that a block gives an input. -/
def input? (b : Block) (key : Yaml) : Option Yaml :=
  (b.inputs?.bind Yaml.entries?).bind (Yaml.lookup key)

end Block

/-- Events that are filtered. -/
inductive FilteredEvent where
  /-- Commits. -/
  | push
  /-- Pull requests. -/
  | pullRequest
  /-- Releases. -/
  | release
deriving DecidableEq

namespace FilteredEvent

/-- The kind of the blocks for such events. -/
def kind : FilteredEvent → Kind
  | .push => .triggerPush
  | .pullRequest => .triggerPr
  | .release => .triggerRelease

/-- The filter that a block for such events says. -/
def filterOf (b : Block) : FilteredEvent → EventFilter
  | .push => ⟨[], b.parts "branches", b.parts "paths"⟩
  | .pullRequest => ⟨b.strings "types", b.parts "branches", []⟩
  | .release => ⟨b.strings "types", [], []⟩

end FilteredEvent

/-- The name of such events in a document. -/
def FilteredEvent.key : FilteredEvent → String
  | .push => "push"
  | .pullRequest => "pull_request"
  | .release => "release"

/-- The name of a list of a filter in a document. -/
def EventFilter.Part.key : EventFilter.Part → String
  | .types => "types"
  | .branches => "branches"
  | .paths => "paths"

/-- The filter for such events, if they start the pipeline. -/
def Events.filter? (e : Events) : FilteredEvent → Option EventFilter
  | .push => e.push
  | .pullRequest => e.pullRequest
  | .release => e.release

/-- The inputs of a start by hand. -/
def Events.inputs? (e : Events) : Option Yaml := e.dispatch.bind (·.inputs)

/-! ### What a document says -/

/-- Whether a section of a document says which events start the pipeline. -/
structure Events.IsWritten (e : Events) (y : Yaml) : Prop where
  /-- Events that are filtered stand there if they start the pipeline. -/
  started : ∀ x : FilteredEvent, (y.under? x.key).isSome = (e.filter? x).isSome
  /-- Each list of their filter stands there unless it is empty. -/
  listed : ∀ x f, e.filter? x = some f → ∀ p : EventFilter.Part,
    (y.under? x.key).bind (·.under? p.key) =
      if (f.part p).isEmpty then none else some (.seq ((f.part p).map .str))
  /-- The points in time stand there, each under a name of its own. -/
  schedule : y.under? "schedule" =
    e.schedule.map fun crons ↦ .seq (crons.map fun cron ↦ .map [(.str "cron", .str cron)])
  /-- A start by hand stands there if there is one. -/
  dispatch : (y.under? "workflow_dispatch").isSome = e.dispatch.isSome
  /-- Its inputs stand there if there are some. -/
  inputs : (y.under? "workflow_dispatch").bind (·.under? "inputs") = e.inputs?

namespace Events

open Yaml

private theorem under?_key (e : Events) (x : FilteredEvent) :
    e.toYaml.under? x.key = (e.filter? x).map EventFilter.toYaml := by
  cases x <;> simp [toYaml, FilteredEvent.key, filter?]

private theorem under?_partKey (f : EventFilter) (p : EventFilter.Part) :
    f.toYaml.under? p.key =
      if (f.part p).isEmpty then none else some (.seq ((f.part p).map .str)) := by
  cases p <;> simp [EventFilter.toYaml, EventFilter.Part.key, EventFilter.part]

theorem isWritten_toYaml (e : Events) : e.IsWritten e.toYaml where
  started x := by rw [under?_key, Option.isSome_map]
  listed x f hf p := by rw [under?_key, hf, Option.map_some, Option.bind_some, under?_partKey]
  schedule := by simp [toYaml]
  dispatch := by simp [toYaml]
  inputs := by cases hd : e.dispatch <;> simp [toYaml, inputs?, hd]

end Events

theorem Document.under?_on (d : Document) : d.toYaml.under? "on" = some d.events.toYaml := by
  simp [toYaml]

/-! ### What one block adds -/

namespace Events

open Yaml

variable {e f : Events} {b : Block}

/-- What a block adds to events; whatever it does not speak of stays. -/
structure Adds (b : Block) (e f : Events) : Prop where
  /-- Its filter is put behind the one that is there. -/
  filter : ∀ x, f.filter? x = if Kind.ofTag? b.tag = some x.kind
    then addFilter (e.filter? x) (x.filterOf b) else e.filter? x
  /-- Its point in time is put behind those that are there. -/
  schedule : f.schedule = if Kind.ofTag? b.tag = some .triggerSchedule
    then (b.trimmed? "cron").elim e.schedule fun cron ↦ some (e.schedule.getD [] ++ [cron])
    else e.schedule
  /-- It lets the pipeline be started by hand. -/
  dispatch : f.dispatch.isSome = (e.dispatch.isSome || Kind.ofTag? b.tag = some .triggerManual)
  /-- Its inputs are put behind those that are there. -/
  inputs : f.inputs? = if Kind.ofTag? b.tag = some .triggerManual
    then b.inputs?.elim e.inputs? (addInputs e.inputs?) else e.inputs?

private theorem listed_eq_parts (key : String) : b.listed key = b.parts key := by
  rw [Block.listed, Block.parts, Text.listed_eq, Block.text?_eq_string?]

private theorem filterOf_push : FilteredEvent.push.filterOf b = b.pushFilter := by
  simp only [FilteredEvent.filterOf, Block.pushFilter, listed_eq_parts]

private theorem filterOf_pullRequest :
    FilteredEvent.pullRequest.filterOf b = b.pullRequestFilter := by
  simp only [FilteredEvent.filterOf, Block.pullRequestFilter, listed_eq_parts,
    Block.texts_eq_strings]

private theorem filterOf_release : FilteredEvent.release.filterOf b = b.releaseFilter := by
  rw [FilteredEvent.filterOf, Block.releaseFilter, Block.texts_eq_strings]

/-- A block that is no trigger of one of the kinds adds nothing. -/
private theorem adds_self (hfilter : ∀ x : FilteredEvent, Kind.ofTag? b.tag ≠ some x.kind)
    (hschedule : Kind.ofTag? b.tag ≠ some .triggerSchedule)
    (hmanual : Kind.ofTag? b.tag ≠ some .triggerManual) : Adds b e e where
  filter x := by rw [if_neg (hfilter x)]
  schedule := by rw [if_neg hschedule]
  dispatch := by simp [hmanual]
  inputs := by rw [if_neg hmanual]

theorem adds_of_add? (h : e.add? b = some f) : Adds b e f := by
  unfold add? at h
  split at h
  · next hk =>
    cases h
    exact ⟨fun x ↦ by cases x <;> simp [hk, FilteredEvent.kind, filter?, filterOf_push],
      by simp [hk], by simp [hk], by simp [hk, inputs?]⟩
  · next hk =>
    cases h
    exact ⟨fun x ↦ by cases x <;> simp [hk, FilteredEvent.kind, filter?, filterOf_pullRequest],
      by simp [hk], by simp [hk], by simp [hk, inputs?]⟩
  · next hk =>
    cases h
    exact ⟨fun x ↦ by cases x <;> simp [hk, FilteredEvent.kind, filter?, filterOf_release],
      by simp [hk], by simp [hk], by simp [hk, inputs?]⟩
  · next hk =>
    have hf : f = { e with
        schedule := (b.trimmed? "cron").elim e.schedule fun cron ↦
          some (e.schedule.getD [] ++ [cron]) } := by
      rw [← Block.filled?_eq_trimmed?]
      split at h <;> next hcron => cases h; simp [hcron]
    subst hf
    exact ⟨fun x ↦ by cases x <;> simp [hk, FilteredEvent.kind, filter?],
      by simp [hk], by simp [hk], by simp [hk, inputs?]⟩
  · next hk =>
    have hf : f = { e with
        dispatch := some ⟨b.inputs?.elim e.inputs? (addInputs e.inputs?)⟩ } := by
      simp only at h
      split at h
      · next hfilled =>
        cases h
        simp [Block.inputs?, ← Block.filled?_eq_trimmed?, hfilled, inputs?]
      · next source hfilled =>
        obtain ⟨inputs, hread, rfl⟩ := Option.map_eq_some_iff.mp h
        simp [Block.inputs?, ← Block.filled?_eq_trimmed?, hfilled, hread, inputs?]
    subst hf
    exact ⟨fun x ↦ by cases x <;> simp [hk, FilteredEvent.kind, filter?],
      by simp [hk], by simp [hk], by simp [hk, inputs?]⟩
  · next hpush hpull hrelease hschedule hmanual =>
    cases h
    exact adds_self (fun x ↦ by cases x <;> assumption) hschedule hmanual

/-- What only blocks of one kind change comes from these blocks in their order. -/
theorem foldl_of_foldlM {β : Type} (k : Kind) (get : Events → β) (change : β → Block → β)
    (hadd : ∀ e b f, Adds b e f →
      get f = if Kind.ofTag? b.tag = some k then change (get e) b else get e)
    {l : List Block} (h : l.foldlM Events.add? e = some f) :
    get f = (l.filter fun b ↦ Kind.ofTag? b.tag = some k).foldl change (get e) := by
  induction l generalizing e with
  | nil =>
    cases h
    rfl
  | cons b l ih =>
    rw [List.foldlM_cons] at h
    obtain ⟨next, hnext, hrest⟩ := Option.bind_eq_some_iff.mp h
    rw [ih hrest, hadd e b next (adds_of_add? hnext), List.filter_cons]
    by_cases hb : Kind.ofTag? b.tag = some k <;> simp [hb]

/-- Points in time, if there are any. -/
def listed? (crons : List String) : Option (List String) :=
  if crons.isEmpty then none else some crons

private theorem getD_listed? (crons : List String) : (listed? crons).getD [] = crons := by
  cases crons <;> rfl

private theorem foldl_listed (cron? : Block → Option String) (l : List Block)
    (there : List String) :
    l.foldl (fun s b ↦ (cron? b).elim s fun cron ↦ some (s.getD [] ++ [cron])) (listed? there) =
      listed? (there ++ l.filterMap cron?) := by
  induction l generalizing there with
  | nil => rw [List.foldl_nil, List.filterMap_nil, List.append_nil]
  | cons b l ih =>
    rw [List.foldl_cons]
    cases hb : cron? b with
    | none => rw [Option.elim_none, ih, List.filterMap_cons_none hb]
    | some cron =>
      have hnext : some ((listed? there).getD [] ++ [cron]) = listed? (there ++ [cron]) := by
        rw [getD_listed?, listed?, if_neg (by simp)]
      rw [Option.elim_some, hnext, ih, List.append_assoc, List.singleton_append,
        List.filterMap_cons_some hb]

/-- Inputs that are put together from those of blocks: each has the value that the first block
with this input gives it. -/
structure Unites (l : List Block) (inputs : Option Yaml) : Prop where
  /-- There are inputs if a block has some. -/
  present : inputs.isSome ↔ ∃ b ∈ l, b.inputs?.isSome
  /-- They are a mapping without repeated keys. -/
  mapping : ∀ y, inputs = some y → ∃ entries, y = .map entries ∧ KeysApart entries ∧
    ∀ key, lookup key entries = l.findSome? (·.input? key)

private theorem Unites.nil : Unites [] none := ⟨by simp, nofun⟩

private theorem Unites.skip {l : List Block} {inputs : Option Yaml} (h : Unites l inputs)
    (hb : b.inputs? = none) : Unites (l ++ [b]) inputs where
  present := by simp [h.present, or_and_right, exists_or, hb]
  mapping y hy := by
    obtain ⟨entries, hentries, hapart, hlookup⟩ := h.mapping y hy
    refine ⟨entries, hentries, hapart, fun key ↦ ?_⟩
    simp [hlookup, List.findSome?_append, Block.input?, hb]

private theorem Unites.add {l : List Block} {inputs : Option Yaml} {m : List (Yaml × Yaml)}
    (h : Unites l inputs) (hb : b.inputs? = some (.map m)) (hm : KeysApart m) :
    Unites (l ++ [b]) (addInputs inputs (.map m)) := by
  have hkey (key : Yaml) : b.input? key = lookup key m := by
    rw [Block.input?, hb]
    rfl
  cases hinputs : inputs with
  | none =>
    refine ⟨by simp [addInputs, hb], fun y hy ↦ ?_⟩
    cases hy
    refine ⟨m, rfl, hm, fun key ↦ ?_⟩
    -- what came before has no inputs at all
    have hnone : l.findSome? (·.input? key) = none := by
      refine List.findSome?_eq_none_iff.mpr fun c hc ↦ ?_
      have hno : ¬ ∃ b ∈ l, b.inputs?.isSome := by
        rw [← h.present, hinputs]
        simp
      cases hcs : c.inputs? with
      | none => rw [Block.input?, hcs, Option.bind_none, Option.bind_none]
      | some y => exact absurd ⟨c, hc, by rw [hcs]; rfl⟩ hno
    rw [List.findSome?_append, hnone, Option.none_or, List.findSome?_singleton, hkey]
  | some y =>
    obtain ⟨entries, rfl, hapart, hlookup⟩ := h.mapping y hinputs
    refine ⟨by simp [addInputs, hb], fun y hy ↦ ?_⟩
    cases hy
    refine ⟨joined entries m, rfl, hapart.joined, fun key ↦ ?_⟩
    rw [lookup_joined, hlookup, List.findSome?_append, List.findSome?_singleton, hkey]

private theorem unites_foldl {l : List Block}
    (h : ∀ b ∈ l, ∀ y, b.inputs? = some y → ∃ m, y = .map m ∧ KeysApart m) :
    Unites l (l.foldl (fun s b ↦ b.inputs?.elim s (addInputs s)) none) := by
  induction l using List.reverseRecOn with
  | nil => exact .nil
  | append_singleton l b ih =>
    have hunites := ih fun c hc ↦ h c (List.mem_append_left _ hc)
    rw [List.foldl_concat]
    cases hb : b.inputs? with
    | none => exact hunites.skip hb
    | some y =>
      obtain ⟨m, rfl, hm⟩ := h b (by simp) y hb
      exact hunites.add hb hm

end Events

/-! ### What all blocks add -/

namespace Workflow

variable {w : Workflow} {r : Registry} {e : Events}

/-- The trigger blocks of one kind in the order of their ids. -/
def triggersOf (w : Workflow) (r : Registry) (k : Kind) : List Block :=
  ((w.triggers r).filter fun b ↦ Kind.ofTag? b.tag = some k).mergeSort fun a b ↦ a.id ≤ b.id

theorem mem_triggersOf {k : Kind} {b : Block} :
    b ∈ w.triggersOf r k ↔ b ∈ w.triggers r ∧ Kind.ofTag? b.tag = some k := by
  simp [triggersOf]

theorem mem_blocks_of_mem_triggersOf {k : Kind} {b : Block} (h : b ∈ w.triggersOf r k) :
    b ∈ w.blocks := List.mem_of_mem_filter (mem_triggersOf.mp h).1

section DistinctIds

variable (hd : w.DistinctIds)
include hd

/-- Without repeated ids, the ids of the trigger blocks of a kind ascend. -/
theorem pairwise_triggersOf (k : Kind) : (w.triggersOf r k).Pairwise (·.id < ·.id) := by
  have hnodup : (w.triggersOf r k).Nodup :=
    (List.mergeSort_perm _ _).nodup_iff.mpr (((List.Nodup.of_map _ hd).filter _).filter _)
  refine ((Block.pairwise_mergeSort_id _).and hnodup).imp_of_mem fun hb hc h ↦ ?_
  refine lt_of_le_of_ne h.1 fun hid ↦ h.2 ?_
  exact hd.eq_of_id_eq (mem_blocks_of_mem_triggersOf hb) (mem_blocks_of_mem_triggersOf hc) hid

/-- Without repeated ids, it does not matter whether blocks are sorted before or after those of one
kind are taken. -/
theorem filter_sortedTriggers (k : Kind) :
    ((w.sortedTriggers r).filter fun b ↦ Kind.ofTag? b.tag = some k) = w.triggersOf r k := by
  have hperm : ((w.sortedTriggers r).filter fun b ↦ Kind.ofTag? b.tag = some k).Perm
      (w.triggersOf r k) :=
    ((List.mergeSort_perm _ _).filter _).trans (List.mergeSort_perm _ _).symm
  refine hperm.eq_of_pairwise ?_ ((Block.pairwise_mergeSort_id _).filter _)
    (Block.pairwise_mergeSort_id _)
  intro a b ha hb hab hba
  exact hd.eq_of_id_eq (mem_blocks_of_mem_triggersOf (hperm.mem_iff.mp ha))
    (mem_blocks_of_mem_triggersOf hb) (String.le_antisymm hab hba)

end DistinctIds

section Fold

variable (h : w.events? r = some e)
include h

/-- Each filter is that of the blocks of its kind put together. -/
theorem filter?_of_events? (x : FilteredEvent) :
    e.filter? x = EventFilter.joined? (((w.sortedTriggers r).filter
      fun b ↦ Kind.ofTag? b.tag = some x.kind).map x.filterOf) := by
  have hfold := Events.foldl_of_foldlM x.kind (·.filter? x)
    (fun s b ↦ Events.addFilter s (x.filterOf b)) (fun _ _ _ hadd ↦ hadd.filter x) h
  have hnone : Events.empty.filter? x = EventFilter.joined? [] := by cases x <;> rfl
  rw [hfold, hnone, ← List.foldl_map (f := x.filterOf), EventFilter.foldl_addFilter,
    List.nil_append]

private theorem schedule_of_events? : e.schedule = Events.listed? (((w.sortedTriggers r).filter
    fun b ↦ Kind.ofTag? b.tag = some .triggerSchedule).filterMap (·.trimmed? "cron")) := by
  have hfold := Events.foldl_of_foldlM .triggerSchedule (·.schedule)
    (fun s b ↦ (b.trimmed? "cron").elim s fun cron ↦ some (s.getD [] ++ [cron]))
    (fun _ _ _ hadd ↦ hadd.schedule) h
  rw [hfold]
  exact Events.foldl_listed (·.trimmed? "cron") _ []

theorem inputs?_of_events? : e.inputs? = ((w.sortedTriggers r).filter
    fun b ↦ Kind.ofTag? b.tag = some .triggerManual).foldl
      (fun s b ↦ b.inputs?.elim s (Events.addInputs s)) none :=
  Events.foldl_of_foldlM .triggerManual Events.inputs?
    (fun s b ↦ b.inputs?.elim s (Events.addInputs s)) (fun _ _ _ hadd ↦ hadd.inputs) h

private theorem dispatch_of_events? : e.dispatch.isSome ↔
    ((w.sortedTriggers r).filter fun b ↦ Kind.ofTag? b.tag = some .triggerManual) ≠ [] := by
  have hfold := Events.foldl_of_foldlM .triggerManual (·.dispatch.isSome) (fun _ _ ↦ true)
    (fun _ _ _ hadd ↦ by rw [hadd.dispatch]; split <;> simp_all) h
  rw [hfold]
  cases (w.sortedTriggers r).filter fun b ↦ Kind.ofTag? b.tag = some .triggerManual with
  | nil => simp [Events.empty]
  | cons b l => simp [List.foldl_const, Function.iterate_fixed]

end Fold

/-- What the events of a workflow are, of all trigger blocks together. -/
structure Gathers (w : Workflow) (r : Registry) (e : Events) : Prop where
  /-- Events of a kind start the pipeline if a block says so. -/
  started : ∀ x : FilteredEvent, (e.filter? x).isSome ↔ w.triggersOf r x.kind ≠ []
  /-- Each filter is that of the blocks of its kind, if there are any: each list is what the blocks
  list, one behind the other, without what stands there already. -/
  filter : ∀ x : FilteredEvent,
    e.filter? x = EventFilter.joined? ((w.triggersOf r x.kind).map x.filterOf)
  /-- The points in time are those of all blocks, one behind the other. -/
  schedule : e.schedule = Events.listed? ((w.triggersOf r .triggerSchedule).map
    fun b ↦ Text.trim ((b.string? "cron").getD ""))
  /-- It can be started by hand if a block says so. -/
  dispatch : e.dispatch.isSome ↔ w.triggersOf r .triggerManual ≠ []
  /-- There are inputs if a block has some. -/
  present : e.inputs?.isSome ↔
    ∃ b ∈ w.triggersOf r .triggerManual, (b.trimmed? "inputs").isSome
  /-- An input has the value that the block with the least id gives it, of all that have it. -/
  inputs : ∀ y, e.inputs? = some y → ∃ entries, y = .map entries ∧ Yaml.KeysApart entries ∧
    ∀ key v, Yaml.lookup key entries = some v ↔
      ∃ b ∈ w.triggersOf r .triggerManual, b.input? key = some v ∧
        ∀ c ∈ w.triggersOf r .triggerManual, (c.input? key).isSome → b.id ≤ c.id

/-- Of blocks with ascending ids, the first that says something is the one with the least id. -/
private theorem findSome?_eq_some_iff_of_ascending {β : Type} {f : Block → Option β}
    {l : List Block} (hl : l.Pairwise (·.id < ·.id)) {v : β} :
    l.findSome? f = some v ↔
      ∃ b ∈ l, f b = some v ∧ ∀ c ∈ l, (f c).isSome → b.id ≤ c.id := by
  induction l with
  | nil => simp
  | cons a l ih =>
    obtain ⟨hfirst, hrest⟩ := List.pairwise_cons.mp hl
    cases ha : f a with
    | none => simp [ha, ih hrest]
    | some u =>
      rw [List.findSome?_cons_of_isSome (by rw [ha]; rfl), ha]
      constructor
      · intro huv
        refine ⟨a, List.mem_cons_self, ha.trans huv, ?_⟩
        refine List.forall_mem_cons.mpr ⟨fun _ ↦ le_rfl, fun c hc _ ↦ (hfirst c hc).le⟩
      · rintro ⟨b, hb, hv, hleast⟩
        rcases List.mem_cons.mp hb with rfl | hb
        · exact ha.symm.trans hv
        · -- a later block has a greater id
          have hle := hleast a List.mem_cons_self (by rw [ha]; rfl)
          exact absurd (hfirst b hb) (not_lt.mpr hle)

/-- What a workflow's inputs stand for is there exactly if the inputs are. -/
private theorem isSome_inputs? {b : Block}
    (hmap : ∀ s, b.trimmed? "inputs" = some s → ∃ entries, Yaml.read? s = some (.map entries)) :
    b.inputs?.isSome ↔ (b.trimmed? "inputs").isSome := by
  rw [Block.inputs?]
  cases hs : b.trimmed? "inputs" with
  | none => simp
  | some s =>
    obtain ⟨entries, hread⟩ := hmap s hs
    simp [hread]

/-- A schedule of a workflow without problems says when. -/
private theorem filterMap_cron (hv : w.isValid .builtin = true) :
    (w.triggersOf .builtin .triggerSchedule).filterMap (·.trimmed? "cron") =
      (w.triggersOf .builtin .triggerSchedule).map
        fun b ↦ Text.trim ((b.string? "cron").getD "") := by
  rw [← List.filterMap_eq_map']
  refine List.filterMap_congr fun b hb ↦ ?_
  have hfilled := isSome_cron hv (mem_blocks_of_mem_triggersOf hb) (mem_triggersOf.mp hb).2
  rw [Block.filled?_eq_trimmed?] at hfilled
  obtain ⟨cron, hcron⟩ := Option.isSome_iff_exists.mp hfilled
  obtain ⟨htrim, -⟩ := Option.filter_eq_some_iff.mp hcron
  obtain ⟨text, htext, rfl⟩ := Option.map_eq_some_iff.mp htrim
  rw [hcron, htext, Option.getD_some]

/-- The events that a document says are those of all trigger blocks together, in the order of their
ids: of a workflow without problems and without repeated ids whose inputs are mappings. -/
theorem events?_gathers (w : Workflow) (hd : w.DistinctIds) (hv : w.isValid .builtin = true)
    (hmap : ∀ b ∈ w.triggersOf .builtin .triggerManual, ∀ s, b.trimmed? "inputs" = some s →
      ∃ entries, Yaml.read? s = some (.map entries)) :
    ∃ e, w.events? .builtin = some e ∧ w.Gathers .builtin e ∧
      ∀ d names, w.document? .builtin = some (d, names) → d.events = e ∧
        ∃ y, d.toYaml.under? "on" = some y ∧ e.IsWritten y := by
  have hsome : (w.events? .builtin).isSome := by
    refine isSome_events?.mpr fun b hb hk ↦ (b.readsYaml_iff hk rfl).mpr fun s hs ↦ ?_
    rw [Block.filled?_eq_trimmed?] at hs
    obtain ⟨entries, hread⟩ := hmap b (mem_triggersOf.mpr ⟨hb, hk⟩) s hs
    rw [hread]
    rfl
  obtain ⟨e, he⟩ := Option.isSome_iff_exists.mp hsome
  have hunites : Events.Unites (w.triggersOf .builtin .triggerManual) e.inputs? := by
    rw [inputs?_of_events? he, filter_sortedTriggers hd]
    refine Events.unites_foldl fun b hb y hy ↦ ?_
    obtain ⟨s, hs, hread⟩ := Option.bind_eq_some_iff.mp hy
    obtain ⟨entries, hentries⟩ := hmap b hb s hs
    obtain rfl := Option.some.inj (hread.symm.trans hentries)
    exact ⟨entries, rfl, Yaml.keysApart_of_read? hentries⟩
  have hfilter (x : FilteredEvent) :
      e.filter? x = EventFilter.joined? ((w.triggersOf .builtin x.kind).map x.filterOf) := by
    rw [filter?_of_events? he, filter_sortedTriggers hd]
  refine ⟨e, he, ⟨fun x ↦ ?_, hfilter, ?_, ?_, ?_, fun y hy ↦ ?_⟩, fun d names hdoc ↦ ?_⟩
  · rw [hfilter, EventFilter.isSome_joined?_iff, ne_eq, List.map_eq_nil_iff]
  · rw [schedule_of_events? he, filter_sortedTriggers hd]
    exact congrArg Events.listed? (filterMap_cron hv)
  · rw [dispatch_of_events? he, filter_sortedTriggers hd]
  · rw [hunites.present]
    exact exists_congr fun b ↦ and_congr_right fun hb ↦ isSome_inputs? (hmap b hb)
  · obtain ⟨entries, hentries, hapart, hlookup⟩ := hunites.mapping y hy
    refine ⟨entries, hentries, hapart, fun key v ↦ ?_⟩
    rw [hlookup, findSome?_eq_some_iff_of_ascending (pairwise_triggersOf hd _)]
  · obtain rfl := Option.some.inj ((document?_events hdoc).symm.trans he)
    exact ⟨rfl, _, d.under?_on, d.events.isWritten_toYaml⟩

/-- The triggers of a kind that are stored against the order of their ids come the other way
round. -/
private theorem triggersOf_eq_reverse (hd : w.DistinctIds) {k : Kind}
    (h : ((w.triggers r).filter fun b ↦ Kind.ofTag? b.tag = some k).reverse.Pairwise
      fun a b ↦ a.id ≤ b.id) :
    w.triggersOf r k = ((w.triggers r).filter fun b ↦ Kind.ofTag? b.tag = some k).reverse := by
  have hperm := (List.mergeSort_perm ((w.triggers r).filter fun b ↦ Kind.ofTag? b.tag = some k)
    fun a b ↦ a.id ≤ b.id).trans (List.reverse_perm _).symm
  refine hperm.eq_of_pairwise ?_ (Block.pairwise_mergeSort_id _) h
  intro a b ha hb hab hba
  have hb' : b ∈ w.triggersOf r k := hperm.mem_iff.mpr hb
  exact hd.eq_of_id_eq (mem_blocks_of_mem_triggersOf ha) (mem_blocks_of_mem_triggersOf hb')
    (String.le_antisymm hab hba)

/-- A workflow with two triggers of a kind, stored against the order of their ids. -/
private def twice : Workflow where
  id := "wf"
  name := "CI"
  description := ""
  blocks := [("h", Kind.jobCheckout, []),
    ("g", .triggerRelease, [("types", .arr [.str "published"])]),
    ("f", .triggerManual, [("inputs", .str "x: p\ny: r")]),
    ("e", .triggerManual, [("inputs", .str " x: q ")]),
    ("d", .triggerPr, [("types", .arr [.str "opened", .str "closed", .str "opened"])]),
    ("c", .triggerPr,
      [("types", .arr [.str "reopened", .str "opened"]), ("branches", .str "main")]),
    ("b", .triggerPush, [("branches", .str "dev, main,,dev")]),
    ("a", .triggerPush, [("branches", .str "main"), ("paths", .str "src/** ,")])].map
      fun b ↦ ⟨b.1, b.2.1.tag, .origin, .ofList b.2.2, none⟩
  connections := [⟨"ah", "a", "out", "h", "in"⟩]

theorem events?_gathers_twice : twice.DistinctIds ∧ twice.isValid .builtin = true ∧
    ∃ e, twice.events? .builtin = some e ∧ twice.Gathers .builtin e ∧
      e.push = some ⟨[], ["main", "dev"], ["src/**"]⟩ ∧
      e.pullRequest = some ⟨["reopened", "opened", "closed"], ["main"], []⟩ ∧
      e.release = some ⟨["published"], [], []⟩ ∧
      ∃ d names, twice.document? .builtin = some (d, names) ∧
        ∃ y, d.toYaml.under? "on" = some y ∧ e.IsWritten y := by
  have hd : twice.DistinctIds := by decide +kernel
  have hv : twice.isValid .builtin = true := by decide +kernel
  have hinputs : ∀ b ∈ twice.blocks, Kind.ofTag? b.tag = some .triggerManual →
      (b.inputs?.bind Yaml.entries?).isSome := by decide +kernel
  obtain ⟨e, he, hgathers, hwritten⟩ := events?_gathers twice hd hv fun b hb s hs ↦ by
    have hsome := hinputs b (mem_blocks_of_mem_triggersOf hb) (mem_triggersOf.mp hb).2
    rw [Block.inputs?, hs, Option.bind_some] at hsome
    cases hread : Yaml.read? s with
    | none => simp [hread] at hsome
    | some y => cases y <;> simp_all [Yaml.entries?]
  have hpush : e.push = some ⟨[], ["main", "dev"], ["src/**"]⟩ := by
    refine (hgathers.filter .push).trans ?_
    rw [triggersOf_eq_reverse hd (by decide +kernel)]
    decide +kernel
  have hpull : e.pullRequest = some ⟨["reopened", "opened", "closed"], ["main"], []⟩ := by
    refine (hgathers.filter .pullRequest).trans ?_
    rw [triggersOf_eq_reverse hd (by decide +kernel)]
    decide +kernel
  have hrelease : e.release = some ⟨["published"], [], []⟩ := by
    refine (hgathers.filter .release).trans ?_
    rw [triggersOf_eq_reverse hd (by decide +kernel)]
    decide +kernel
  have hdoc : (twice.document? .builtin).isSome :=
    isSome_document?.mpr ⟨by rw [he]; rfl, by decide +kernel, by decide +kernel⟩
  obtain ⟨⟨d, names⟩, hdoc⟩ := Option.isSome_iff_exists.mp hdoc
  exact ⟨hd, hv, e, he, hgathers, hpush, hpull, hrelease, d, names, hdoc,
    (hwritten d names hdoc).2⟩

end Workflow

end Blockflow
