import Blockflow.Proofs.Pipeline.Storage
import Mathlib.Data.List.Sort
import Mathlib.Order.Bounds.Basic

/-!
# Cycles and blocks out of reach

All problems of one kind come from one check of a validation. The steps that are reported to come
before themselves are those on a cycle of connections between steps. The blocks that are reported as
out of reach are the steps outside of the smallest set of ids that holds those of all triggers and
whatever connections lead to from its members. Both checks search the graph, and both searches end.
-/

namespace Blockflow

open Relation Blockflow.Graph

/-! ### Problems by kind -/

namespace Validation

variable {w : Workflow} {r : Registry} {b : Block} {c : Connection} {f : Finding}

theorem kind_of_mem_typeFindings (hf : f ∈ typeFindings r b) : f.kind = .unknownBlockType := by
  rw [typeFindings, List.mem_ite_nil_left, List.mem_singleton] at hf
  rw [hf.2, Finding.kind]

private theorem kind_of_mem_fieldFindings {field : Field} (hf : f ∈ fieldFindings b field) :
    f.kind = .missingRequiredField ∨ f.kind = .schemaViolation := by
  simp only [fieldFindings] at hf
  split at hf
  · rw [List.mem_singleton.mp hf]
    exact .inl rfl
  · split at hf
    · cases hf
    · rw [List.mem_singleton.mp hf]
      exact .inr rfl

theorem kind_of_mem_settings (hf : f ∈ configFindings r b) :
    f.kind = .missingRequiredField ∨ f.kind = .schemaViolation := by
  rw [configFindings] at hf
  split at hf
  · cases hf
  · rcases List.mem_append.mp hf with hf | hf
    · obtain ⟨field, -, hf⟩ := List.mem_flatMap.mp hf
      exact kind_of_mem_fieldFindings hf
    · obtain ⟨key, -, rfl⟩ := List.mem_map.mp hf
      exact .inr rfl

/-- Whether a kind of problem is one that a connection may have. -/
def IsOfConnection (k : ProblemKind) : Prop :=
  k ∈ [.missingBlock, .missingPort, .portMismatch, .arityExceeded]

private theorem isOfConnection_of_linkOf {findings : List Finding}
    (h : linkOf w r c = .inl findings) (hf : f ∈ findings) : IsOfConnection f.kind := by
  simp only [linkOf] at h
  split at h
  · split at h
    · split at h
      · cases h
      · obtain rfl := Sum.inl.inj h
        simp only [List.mem_append, List.mem_ite_nil_right, List.mem_singleton] at hf
        rcases hf with ⟨-, rfl⟩ | ⟨-, rfl⟩ <;> simp [IsOfConnection, Finding.kind]
    · cases h
  · obtain rfl := Sum.inl.inj h
    simp only [List.mem_append, List.mem_ite_nil_right, List.mem_singleton] at hf
    rcases hf with ⟨-, rfl⟩ | ⟨-, rfl⟩ <;> simp [IsOfConnection, Finding.kind]

theorem isOfConnection_of_mem {taken : List (String × String)} {cs : List Connection}
    (hf : f ∈ connectionFindings w r taken cs) : IsOfConnection f.kind := by
  induction cs generalizing taken with
  | nil => cases hf
  | cons c cs ih =>
    rw [connectionFindings] at hf
    split at hf
    · next h =>
      rcases List.mem_append.mp hf with hf | hf
      · exact isOfConnection_of_linkOf h hf
      · exact ih hf
    · exact ih hf
    · next link _ =>
      dsimp only at hf
      by_cases htrigger : link.source.isTrigger = true
      · rw [if_pos htrigger, List.mem_append, List.mem_ite_nil_left, List.mem_singleton] at hf
        rcases hf with ⟨-, rfl⟩ | hf
        · simp [IsOfConnection, Finding.kind]
        · exact ih hf
      · rw [if_neg htrigger, List.mem_append, List.mem_append, List.mem_ite_nil_left,
          List.mem_singleton] at hf
        rcases hf with (⟨-, rfl⟩ | hf) | hf
        · simp [IsOfConnection, Finding.kind]
        · split at hf
          · rw [List.mem_ite_nil_right, List.mem_singleton] at hf
            simp [hf.2, IsOfConnection, Finding.kind]
          · cases hf
        · exact ih hf

end Validation

namespace Workflow

open StepGraph Validation

variable {w : Workflow} {r : Registry} {k : ProblemKind} {id : String}

private theorem filter_kind_eq_nil {l : List Finding} (h : ∀ f ∈ l, f.kind ≠ k) :
    l.filter (·.kind = k) = [] := by
  simpa using h

private theorem filter_kind_eq_self {l : List Finding} (h : ∀ f ∈ l, f.kind = k) :
    l.filter (·.kind = k) = l := by
  simpa using h

/-- What is wrong with a single block or a single connection is told apart by its kind from what is
wrong with the graph as a whole. -/
private theorem filter_findings (h : k = .cycle ∨ k = .unreachable ∨ k = .missingTrigger) :
    (w.findings r).filter (·.kind = k) =
      (cycleFindings w r ++ reachFindings w r ++ triggerFindings w r).filter (·.kind = k) := by
  have htypes : (w.blocks.flatMap (typeFindings r)).filter (·.kind = k) = [] := by
    apply filter_kind_eq_nil
    intro f hf hk
    obtain ⟨b, -, hf⟩ := List.mem_flatMap.mp hf
    rw [← hk, kind_of_mem_typeFindings hf] at h
    simp at h
  have hsettings : (w.blocks.flatMap (configFindings r)).filter (·.kind = k) = [] := by
    apply filter_kind_eq_nil
    intro f hf hk
    obtain ⟨b, -, hf⟩ := List.mem_flatMap.mp hf
    rw [← hk] at h
    rcases kind_of_mem_settings hf with hkind | hkind <;> simp [hkind] at h
  have hconnections : (connectionFindings w r [] w.connections).filter (·.kind = k) = [] := by
    apply filter_kind_eq_nil
    intro f hf hk
    have hkind := isOfConnection_of_mem hf
    rw [hk] at hkind
    rcases h with rfl | rfl | rfl <;> simp [IsOfConnection] at hkind
  simp only [findings, List.filter_append, htypes, hsettings, hconnections, List.nil_append]

theorem kind_of_mem_cycleFindings {f : Finding} (hf : f ∈ cycleFindings w r) :
    f.kind = .cycle := by
  obtain ⟨id, -, rfl⟩ := List.mem_map.mp hf
  rfl

theorem kind_of_mem_reachFindings {f : Finding} (hf : f ∈ reachFindings w r) :
    f.kind = .unreachable := by
  obtain ⟨id, -, rfl⟩ := List.mem_map.mp hf
  rfl

theorem kind_of_mem_triggerFindings {f : Finding} (hf : f ∈ triggerFindings w r) :
    f.kind = .missingTrigger := by
  rw [triggerFindings, List.mem_ite_nil_right, List.mem_singleton] at hf
  rw [hf.2, Finding.kind]

/-- The problems of one kind are what has been found of this kind. -/
theorem filter_problems (w : Workflow) (r : Registry) (k : ProblemKind) :
    (w.problems r).filter (·.kind = k) =
      ((w.findings r).filter (·.kind = k)).map Finding.problem :=
  List.filter_map

theorem filter_findings_cycle : (w.findings r).filter (·.kind = .cycle) = cycleFindings w r := by
  rw [filter_findings (.inl rfl), List.filter_append, List.filter_append,
    filter_kind_eq_self fun _ ↦ kind_of_mem_cycleFindings,
    filter_kind_eq_nil fun f hf ↦ by simp [kind_of_mem_reachFindings hf],
    filter_kind_eq_nil fun f hf ↦ by simp [kind_of_mem_triggerFindings hf],
    List.append_nil, List.append_nil]

theorem filter_findings_unreachable :
    (w.findings r).filter (·.kind = .unreachable) = reachFindings w r := by
  rw [filter_findings (.inr (.inl rfl)), List.filter_append, List.filter_append,
    filter_kind_eq_nil fun f hf ↦ by simp [kind_of_mem_cycleFindings hf],
    filter_kind_eq_self fun _ ↦ kind_of_mem_reachFindings,
    filter_kind_eq_nil fun f hf ↦ by simp [kind_of_mem_triggerFindings hf],
    List.nil_append, List.append_nil]

/-! ### Cycles -/

/-- Whether an id is one of those on a cycle, each of them different and each of them connected with
the next one, where all ids are those of steps. -/
def IsOnCycle (w : Workflow) (r : Registry) (id : String) : Prop :=
  ∃ c : Cycle String, c.Nodup ∧ c.Chain (w.StepEdge r) ∧ id ∈ c

theorem isOnCycle_iff_transGen :
    w.IsOnCycle r id ↔ TransGen (Joins (ofWorkflow w r).edges) id id := by
  have hedges : Joins (ofWorkflow w r).edges = w.StepEdge r := by
    funext a b
    exact propext joins_iff_stepEdge
  rw [hedges, transGen_self_iff, IsOnCycle]

/-- The walk from what comes right after a step in search of a way back to it: whatever it has found
last is visited first. -/
def wayBack (g : StepGraph) (id : String) : Search where
  next := g.after
  enqueue todo found := found.reverse ++ todo
  goal := (· == id)

private theorem length_after_le (g : StepGraph) (a : String) :
    (g.after a).length ≤ (successors g.edges a).length :=
  (List.subperm_of_subset (nodup_ascending _) fun _ ↦ mem_ascending.mp).length_le

theorem follows_wayBack (g : StepGraph) (id : String) : (wayBack g id).Follows g.edges where
  mem_next _ _ := mem_after
  length_next := length_after_le g
  perm_enqueue todo found :=
    ((List.reverse_perm found).append_right todo).trans List.perm_append_comm

/-- The walk ends on every graph, and it has come back to where it started exactly if a path of at
least one edge leads there. -/
theorem exists_run?_wayBack {g : StepGraph} {id : String} {turns : Nat}
    (hturns : 2 * g.edges.length < turns) :
    ∃ e, (wayBack g id).run? turns (g.after id).reverse [] = some e ∧
      (e = .atGoal ↔ TransGen (Joins g.edges) id id) := by
  have hafter : (g.after id).length ≤ g.edges.length := by
    apply (length_after_le g id).trans
    rw [successors, List.length_map]
    apply List.length_filter_le
  have henough : (g.after id).reverse.length + g.edges.length < turns := by
    rw [List.length_reverse]
    omega
  obtain ⟨e, hrun, htells⟩ := (follows_wayBack g id).exists_run? henough
  have hback : Search.Reaches g.edges (g.after id).reverse id ↔
      TransGen (Joins g.edges) id id := by
    rw [TransGen.head'_iff, Search.Reaches]
    simp only [List.mem_reverse, mem_after]
  refine ⟨e, hrun, ?_⟩
  rw [← hback]
  cases e with
  | atGoal =>
    obtain ⟨x, hx, hreaches⟩ := htells
    have hid : x = id := eq_of_beq hx
    rw [hid] at hreaches
    exact iff_of_true rfl hreaches
  | exhausted visited =>
    refine iff_of_false (fun h ↦ by cases h) fun hreaches ↦ ?_
    have hmissed := htells.2 id ((htells.1 id).mpr hreaches)
    simp [wayBack] at hmissed

/-- The problems of the kind `cycle` name the ids on cycles as their blocks, each once and in
ascending order; and from each step the walk in search of a way back ends, having come back exactly
if the step is on a cycle. -/
theorem cycleProblems_eq_map (w : Workflow) (r : Registry) :
    (∃ ids : List String,
      (w.problems r).filter (·.kind = .cycle) =
        ids.map (fun id ↦ ⟨some id, none, .cycle, "block is part of a dependency cycle"⟩) ∧
        ids.Pairwise (· < ·) ∧ ∀ id, id ∈ ids ↔ w.IsOnCycle r id) ∧
      ∀ id ∈ w.stepIds r, ∃ e, (wayBack (ofWorkflow w r) id).run?
        (2 * w.connections.length + 1) ((ofWorkflow w r).after id).reverse [] = some e ∧
          (e = .atGoal ↔ w.IsOnCycle r id) := by
  constructor
  · refine ⟨(w.stepIds r).filter (isOnCycle (ofWorkflow w r).edges), ?_, ?_, fun id ↦ ?_⟩
    · rw [filter_problems, filter_findings_cycle, cycleFindings, List.map_map]
      rfl
    · exact (pairwise_ascending _).filter _
    · rw [List.mem_filter, isOnCycle_iff, ← isOnCycle_iff_transGen, and_iff_right_iff_imp]
      intro hid
      rw [isOnCycle_iff_transGen, TransGen.head'_iff] at hid
      obtain ⟨b, hb, -⟩ := hid
      exact (joins_ofWorkflow.mp hb).1
  · intro id _
    simp only [isOnCycle_iff_transGen]
    apply exists_run?_wayBack
    have hedges : (ofWorkflow w r).edges.length ≤ w.connections.length := by
      rw [ofWorkflow, edgesAmong, List.length_map]
      apply List.length_filter_le
    omega

/-- A workflow with a cycle of two steps, one of them of an unknown type, a step that is connected
with itself, and a step behind it. -/
private def looped : Workflow where
  id := "wf"
  name := "CI"
  description := ""
  blocks := [("t", Kind.triggerPush.tag), ("d", Kind.jobLint.tag), ("c", Kind.jobTest.tag),
    ("b", "unknown"), ("a", Kind.jobBuild.tag)].map fun b ↦ ⟨b.1, b.2, .origin, .empty, none⟩
  connections := [("1", "t", "a"), ("2", "a", "b"), ("3", "b", "a"), ("4", "t", "c"),
    ("5", "c", "c"), ("6", "c", "d")].map fun c ↦ ⟨c.1, c.2.1, "out", c.2.2, "in"⟩

theorem cycleProblems_looped :
    ((looped.problems .builtin).filter (·.kind = .cycle)).map (·.block) =
      [some "a", some "b", some "c"] ∧
    looped.IsOnCycle .builtin "c" ∧ ¬looped.IsOnCycle .builtin "d" := by
  have hblocks : ((looped.problems .builtin).filter (·.kind = .cycle)).map (·.block) =
      [some "a", some "b", some "c"] := by decide +kernel
  obtain ⟨⟨ids, hids, -, hmem⟩, -⟩ := cycleProblems_eq_map looped .builtin
  have hnames : ids = ["a", "b", "c"] := by
    apply List.map_injective_iff.mpr (Option.some_injective String)
    rw [hids, List.map_map] at hblocks
    exact hblocks
  refine ⟨hblocks, (hmem "c").mp ?_, fun hd ↦ ?_⟩
  · rw [hnames]
    decide
  · rw [← hmem, hnames] at hd
    exact absurd hd (by decide)

/-! ### Blocks out of reach -/

/-- The ids that runs come to: those of triggers, and whatever a connection leads to from an id that
runs come to. -/
inductive ComesTo (w : Workflow) (r : Registry) : String → Prop where
  /-- A run starts at a trigger. -/
  | trigger {b : Block} (hb : b ∈ w.triggers r) : ComesTo w r b.id
  /-- A run goes on along a connection. -/
  | connection {c : Connection} (hc : c ∈ w.connections) (hs : ComesTo w r c.source) :
      ComesTo w r c.target

/-- The connections of a workflow as edges, whatever they join. -/
def connectionEdges (w : Workflow) : List (String × String) :=
  w.connections.map fun c ↦ (c.source, c.target)

theorem joins_connectionEdges {a b : String} :
    Joins w.connectionEdges a b ↔ ∃ c ∈ w.connections, c.source = a ∧ c.target = b := by
  simp [Joins, connectionEdges]

theorem dependents_eq_successors (w : Workflow) (id : String) :
    w.dependents id = successors w.connectionEdges id := by
  rw [successors, connectionEdges, List.filter_map, List.map_map]
  rfl

theorem reaches_triggers_iff :
    Search.Reaches w.connectionEdges ((w.triggers r).map (·.id)) id ↔ w.ComesTo r id := by
  constructor
  · rintro ⟨a, ha, hp⟩
    obtain ⟨b, hb, rfl⟩ := List.mem_map.mp ha
    induction hp with
    | refl => exact .trigger hb
    | tail _ hstep ih =>
      obtain ⟨c, hc, rfl, rfl⟩ := joins_connectionEdges.mp hstep
      exact .connection hc ih
  · intro h
    induction h with
    | trigger hb => exact ⟨_, List.mem_map_of_mem hb, .refl⟩
    | @connection c hc _ ih =>
      obtain ⟨a, ha, hp⟩ := ih
      exact ⟨a, ha, hp.tail (joins_connectionEdges.mpr ⟨c, hc, rfl, rfl⟩)⟩

theorem mem_reachedIds : id ∈ reachedIds w r ↔ w.ComesTo r id := by
  rw [← reaches_triggers_iff]
  exact mem_reachable

instance (w : Workflow) (r : Registry) (id : String) : Decidable (w.ComesTo r id) :=
  decidable_of_iff (id ∈ reachedIds w r) mem_reachedIds

/-- What runs come to is the smallest set with the ids of all triggers that connections do not lead
out of. -/
theorem isLeast_comesTo (w : Workflow) (r : Registry) :
    IsLeast {ids : Set String | (∀ b ∈ w.triggers r, b.id ∈ ids) ∧
      ∀ c ∈ w.connections, c.source ∈ ids → c.target ∈ ids} {id | w.ComesTo r id} := by
  constructor
  · exact ⟨fun b hb ↦ .trigger hb, fun c hc hs ↦ .connection hc hs⟩
  · rintro ids ⟨htriggers, hclosed⟩ id hid
    induction hid with
    | trigger hb => exact htriggers _ hb
    | connection hc _ ih => exact hclosed _ hc ih

/-- The search for what runs come to: whatever it has found first is visited first. -/
def spread (w : Workflow) : Search where
  next := w.dependents
  enqueue todo found := todo ++ found
  goal _ := false

theorem follows_spread (w : Workflow) : w.spread.Follows w.connectionEdges where
  mem_next a b := by
    rw [← mem_successors, ← dependents_eq_successors]
    rfl
  length_next a := by
    rw [← dependents_eq_successors]
    rfl
  perm_enqueue _ _ := .refl _

/-- The search ends on every graph, and it has visited what runs come to then. -/
theorem exists_run?_spread {turns : Nat}
    (hturns : (w.triggers r).length + w.connections.length < turns) :
    ∃ visited, w.spread.run? turns ((w.triggers r).map (·.id)) [] = some (.exhausted visited) ∧
      ∀ id, id ∈ visited ↔ w.ComesTo r id := by
  have henough : ((w.triggers r).map (·.id)).length + w.connectionEdges.length < turns := by
    rwa [List.length_map, connectionEdges, List.length_map]
  obtain ⟨e, hrun, htells⟩ := (follows_spread w).exists_run? henough
  cases e with
  | atGoal =>
    obtain ⟨x, hx, -⟩ := htells
    exact absurd hx Bool.false_ne_true
  | exhausted visited =>
    refine ⟨visited, hrun, fun id ↦ ?_⟩
    rw [← reaches_triggers_iff]
    exact htells.1 id

/-- The problems of the kind `unreachable` name the steps that runs do not come to, each as often as
it is among the blocks and in ascending order of ids; runs come to the smallest set of ids that
holds those of all triggers and is closed under connections; and the search for it ends. -/
theorem unreachableProblems_eq_map (w : Workflow) (r : Registry) :
    (∃ ids : List String,
      (w.problems r).filter (·.kind = .unreachable) =
        ids.map (fun id ↦
          ⟨some id, none, .unreachable, "no path from any trigger reaches this block"⟩) ∧
        ids.Pairwise (· ≤ ·) ∧
        ids.Perm (((w.steps r).filter fun b ↦ ¬w.ComesTo r b.id).map (·.id))) ∧
      IsLeast {ids : Set String | (∀ b ∈ w.triggers r, b.id ∈ ids) ∧
        ∀ c ∈ w.connections, c.source ∈ ids → c.target ∈ ids} {id | w.ComesTo r id} ∧
      ∃ visited, w.spread.run? ((w.triggers r).length + w.connections.length + 1)
        ((w.triggers r).map (·.id)) [] = some (.exhausted visited) ∧
          ∀ id, id ∈ visited ↔ w.ComesTo r id := by
  refine ⟨?_, isLeast_comesTo w r, exists_run?_spread (Nat.lt_succ_self _)⟩
  have hlost : ((w.steps r).map (·.id)).filter (!(reachedIds w r).contains ·) =
      ((w.steps r).filter fun b ↦ ¬w.ComesTo r b.id).map (·.id) := by
    rw [List.filter_map]
    congr 1
    apply List.filter_congr
    intro b _
    simp [← mem_reachedIds]
  refine ⟨(((w.steps r).map (·.id)).filter (!(reachedIds w r).contains ·)).mergeSort (· ≤ ·),
    ?_, List.pairwise_mergeSort' _ _, ?_⟩
  · rw [filter_problems, filter_findings_unreachable, reachFindings, List.map_map]
    rfl
  · rw [← hlost]
    apply List.mergeSort_perm

/-- A workflow with a cycle that no run comes to, one of whose ids two blocks have. -/
private def strayed : Workflow where
  id := "wf"
  name := "CI"
  description := ""
  blocks := [("t", Kind.triggerPush.tag), ("c", Kind.jobTest.tag), ("b", Kind.jobLint.tag),
    ("a", Kind.jobBuild.tag), ("b", "unknown")].map fun b ↦ ⟨b.1, b.2, .origin, .empty, none⟩
  connections := [("1", "t", "a"), ("2", "b", "c"), ("3", "c", "b"), ("4", "c", "a")].map
    fun c ↦ ⟨c.1, c.2.1, "out", c.2.2, "in"⟩

theorem unreachableProblems_strayed :
    ((strayed.steps .builtin).filter fun b ↦ ¬strayed.ComesTo .builtin b.id).map (·.id) =
      ["c", "b", "b"] ∧
    ((strayed.problems .builtin).filter (·.kind = .unreachable)).map (·.block) =
      [some "b", some "b", some "c"] := by
  have hlost : ((strayed.steps .builtin).filter fun b ↦ ¬strayed.ComesTo .builtin b.id).map
      (·.id) = ["c", "b", "b"] := by decide +kernel
  obtain ⟨⟨ids, hids, hascends, hperm⟩, -⟩ := unreachableProblems_eq_map strayed .builtin
  have hnames : ids = ["b", "b", "c"] := by
    refine (hperm.trans ?_).eq_of_pairwise (fun _ _ _ _ ↦ String.le_antisymm) hascends (by decide)
    rw [hlost]
    decide
  refine ⟨hlost, ?_⟩
  rw [hids, hnames]
  rfl

end Workflow
end Blockflow
