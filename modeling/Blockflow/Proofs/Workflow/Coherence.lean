import Blockflow.Proofs.Graph.Order
import Blockflow.Proofs.Workflow.Change

/-!
# Coherent workflows

What editing keeps true of a workflow: ids are distinct, connections join ports that fit, no input
has more connections than it takes, and no step comes before itself. What is said of a connection
depends on the types of the blocks at its ends and on nothing else, so it stays true when other
blocks and connections come or go. A connection more keeps it true if it breaks no rule itself.
-/

namespace Blockflow

open Relation Blockflow.Graph

/-- Whether an output of one type of block may be connected with an input of another type. -/
def Registry.feeds (r : Registry) (source sourcePort target targetPort : String) : Bool :=
  (r.get? source).any fun s ↦ (r.get? target).any fun t ↦
    (s.output? sourcePort).any fun o ↦ (t.input? targetPort).any fun i ↦ o.type.feeds i.type

theorem Registry.feeds_iff {r : Registry} {source sourcePort target targetPort : String} :
    r.feeds source sourcePort target targetPort = true ↔
      ∃ s, r.get? source = some s ∧ ∃ t, r.get? target = some t ∧
        ∃ o, s.output? sourcePort = some o ∧ ∃ i, t.input? targetPort = some i ∧
          o.type.feeds i.type = true := by
  simp only [feeds, Option.any_eq_true]

theorem Registry.isTrigger_of_get? {r : Registry} {tag : String} {d : Definition}
    (h : r.get? tag = some d) : r.isTrigger tag = d.isTrigger := by
  rw [isTrigger, h, Option.any_some]

namespace StepGraph

variable {g h : StepGraph} {s t : String}

/-- One more edge closes no cycle if no path leads from its end to its start. -/
theorem Acyclic.of_joins (hg : g.Acyclic)
    (hj : ∀ a b, Joins h.edges a b → Joins g.edges a b ∨ a = s ∧ b = t)
    (hpath : ¬ReflTransGen (Joins g.edges) t s) : h.Acyclic := by
  intro id hid
  obtain ⟨b, hb, hrest⟩ := TransGen.head'_iff.mp hid
  have hback := reflTransGen_or_of_edge (ReflTransGen.mono hj _ _ hrest)
  rcases hj id b hb with hold | ⟨rfl, rfl⟩
  · rcases hback with hback | ⟨hbs, hti⟩
    · exact hg id (TransGen.head'_iff.mpr ⟨b, hold, hback⟩)
    · exact hpath (hti.trans (.head hold hbs))
  · rcases hback with hback | ⟨-, hback⟩
    · exact hpath hback
    · exact hpath hback

theorem Acyclic.mono (hg : g.Acyclic) (hj : ∀ a b, Joins h.edges a b → Joins g.edges a b) :
    h.Acyclic :=
  fun id hid ↦ hg id (TransGen.mono hj _ _ hid)

end StepGraph

namespace Workflow

/-- The ids of the blocks with their types. -/
def types (w : Workflow) : List (String × String) := w.blocks.map fun b ↦ (b.id, b.tag)

/-- Whether a connection leads from a port of a block to a port of a block, and the ports fit. -/
def Wired (w : Workflow) (r : Registry) (c : Connection) : Prop :=
  ∃ s ∈ w.types, ∃ t ∈ w.types, s.1 = c.source ∧ t.1 = c.target ∧
    r.feeds s.2 c.sourcePort t.2 c.targetPort = true

instance (w : Workflow) (r : Registry) (c : Connection) : Decidable (w.Wired r c) :=
  inferInstanceAs (Decidable (∃ _ ∈ _, _))

/-- The connections into an input that count for its limit: those from blocks that start no runs. -/
def counted (w : Workflow) (r : Registry) (target port : String) : List Connection :=
  (Editor.connectionsInto w target port).filter fun c ↦ !Editor.isTriggerId r w c.source

/-- Whether no input has more connections than it takes, triggers not counted. -/
def WithinLimits (w : Workflow) (r : Registry) : Prop :=
  ∀ t ∈ w.types, ∀ d ∈ r.get? t.2, ∀ p ∈ d.inputs, d.input? p.id = some p →
    ∀ limit ∈ p.limit?, (w.counted r t.1 p.id).length ≤ limit

instance (w : Workflow) (r : Registry) : Decidable (w.WithinLimits r) :=
  inferInstanceAs (Decidable (∀ _ ∈ _, _))

/-- What editing keeps true of a workflow. -/
structure Coherent (w : Workflow) (r : Registry) : Prop where
  /-- No two blocks have the same id. -/
  blockIds : w.DistinctIds
  /-- No two connections have the same id. -/
  connectionIds : (w.connections.map (·.id)).Nodup
  /-- Every connection joins existing ports of existing blocks of known types, and the ports fit. -/
  wired : ∀ c ∈ w.connections, w.Wired r c
  /-- No input has more connections than it takes. -/
  limits : w.WithinLimits r
  /-- No two connections join the same ports. -/
  ends : w.connections.Pairwise fun c d ↦ c.sameEnds d = false
  /-- No block is connected with itself. -/
  irreflexive : ∀ c ∈ w.connections, c.source ≠ c.target
  /-- No step comes before itself. -/
  acyclic : (StepGraph.ofWorkflow w r).Acyclic

instance (w : Workflow) (r : Registry) : Decidable (w.Coherent r) :=
  decidable_of_iff (w.DistinctIds ∧ (w.connections.map (·.id)).Nodup ∧
      (∀ c ∈ w.connections, w.Wired r c) ∧ w.WithinLimits r ∧
      (w.connections.Pairwise fun c d ↦ c.sameEnds d = false) ∧
      (∀ c ∈ w.connections, c.source ≠ c.target) ∧ (StepGraph.ofWorkflow w r).Acyclic)
    ⟨fun ⟨h₁, h₂, h₃, h₄, h₅, h₆, h₇⟩ ↦ ⟨h₁, h₂, h₃, h₄, h₅, h₆, h₇⟩,
      fun ⟨h₁, h₂, h₃, h₄, h₅, h₆, h₇⟩ ↦ ⟨h₁, h₂, h₃, h₄, h₅, h₆, h₇⟩⟩

variable {w v : Workflow} {r : Registry} {c : Connection} {id tag other : String}

/-- A workflow without blocks is coherent. -/
theorem coherent_of_empty (hb : w.blocks = []) (hc : w.connections = []) : w.Coherent r where
  blockIds := by simp [DistinctIds, hb]
  connectionIds := by simp [hc]
  wired c hm := by simp [hc] at hm
  limits t ht := by simp [types, hb] at ht
  ends := by simp [hc]
  irreflexive c hm := by simp [hc] at hm
  acyclic id hid := by
    obtain ⟨b, hb, -⟩ := TransGen.head'_iff.mp hid
    obtain ⟨-, -, c, hm, -⟩ := joins_ofWorkflow.mp hb
    simp [hc] at hm

/-! ### Types of blocks -/

theorem mem_types : (id, tag) ∈ w.types ↔ ∃ b ∈ w.blocks, b.id = id ∧ b.tag = tag := by
  simp [types]

/-- A block has one type. -/
theorem DistinctIds.eq_of_mem_types (hd : w.DistinctIds) (h : (id, tag) ∈ w.types)
    (h' : (id, other) ∈ w.types) : tag = other := by
  obtain ⟨b, hb, rfl, rfl⟩ := mem_types.mp h
  obtain ⟨c, hc, hid, rfl⟩ := mem_types.mp h'
  rw [hd.eq_of_id_eq hb hc hid.symm]

/-- The first block with the id of a block is this block. -/
theorem DistinctIds.block?_eq_some (hd : w.DistinctIds) {b : Block} :
    w.block? id = some b ↔ b ∈ w.blocks ∧ b.id = id := by
  constructor
  · intro h
    exact ⟨List.mem_of_find?_eq_some h, by simpa using List.find?_some h⟩
  · rintro ⟨hb, rfl⟩
    have hsome : (w.block? b.id).isSome := List.find?_isSome.mpr ⟨b, hb, beq_self_eq_true _⟩
    obtain ⟨c, hc⟩ := Option.isSome_iff_exists.mp hsome
    have hid : c.id = b.id := by simpa using List.find?_some hc
    rw [hc, hd.eq_of_id_eq (List.mem_of_find?_eq_some hc) hb hid]

theorem DistinctIds.isTriggerId_eq (hd : w.DistinctIds) (h : (id, tag) ∈ w.types) :
    Editor.isTriggerId r w id = r.isTrigger tag := by
  obtain ⟨b, hb, rfl, rfl⟩ := mem_types.mp h
  rw [Editor.isTriggerId, hd.block?_eq_some.mpr ⟨hb, rfl⟩, Option.any_some]

theorem mem_stepIds_iff_types :
    id ∈ w.stepIds r ↔ ∃ tag, (id, tag) ∈ w.types ∧ r.isTrigger tag = false := by
  simp only [mem_stepIds, mem_steps, mem_types, isTrigger]
  constructor
  · rintro ⟨b, ⟨hb, ht⟩, rfl⟩
    exact ⟨b.tag, ⟨b, hb, rfl, rfl⟩, ht⟩
  · rintro ⟨tag, ⟨b, hb, rfl, rfl⟩, ht⟩
    exact ⟨b, ⟨hb, ht⟩, rfl⟩

theorem DistinctIds.mem_stepIds_iff (hd : w.DistinctIds) (h : (id, tag) ∈ w.types) :
    id ∈ w.stepIds r ↔ r.isTrigger tag = false := by
  rw [mem_stepIds_iff_types]
  constructor
  · rintro ⟨other, hother, ht⟩
    rwa [hd.eq_of_mem_types h hother]
  · exact fun ht ↦ ⟨tag, h, ht⟩

/-! ### Less of the same connections -/

/-- Whether a workflow has all blocks at the ends of a connection that another one has, of the same
types. -/
def KeepsEnds (v w : Workflow) (c : Connection) : Prop :=
  ∀ e ∈ w.types, e.1 = c.source ∨ e.1 = c.target → e ∈ v.types

theorem Wired.of_keepsEnds (h : w.Wired r c) (hk : v.KeepsEnds w c) : v.Wired r c := by
  obtain ⟨s, hs, t, ht, hsource, htarget, hfeeds⟩ := h
  exact ⟨s, hk s hs (.inl hsource), t, hk t ht (.inr htarget), hsource, htarget, hfeeds⟩

/-- A block at an end of a kept connection is one of the first workflow too. -/
private theorem mem_types_of_keepsEnds (hd : v.DistinctIds) (hw : w.Wired r c)
    (hk : v.KeepsEnds w c) (hid : id = c.source ∨ id = c.target) (h : (id, tag) ∈ v.types) :
    (id, tag) ∈ w.types := by
  obtain ⟨⟨s, stag⟩, hs, ⟨t, ttag⟩, ht, rfl, rfl, -⟩ := hw
  rcases hid with rfl | rfl
  · rwa [hd.eq_of_mem_types h (hk _ hs (.inl rfl))]
  · rwa [hd.eq_of_mem_types h (hk _ ht (.inr rfl))]

section Fewer

variable (h : w.Coherent r) (hd : v.DistinctIds) (hc : v.connections.Sublist w.connections)
  (hk : ∀ c ∈ v.connections, v.KeepsEnds w c)
include h hd hc hk

private theorem isTriggerId_source (hm : c ∈ v.connections) :
    Editor.isTriggerId r v c.source = Editor.isTriggerId r w c.source := by
  obtain ⟨⟨s, tag⟩, hs, -, -, rfl, -⟩ := h.wired c (hc.mem hm)
  rw [hd.isTriggerId_eq (hk c hm _ hs (.inl rfl)), h.blockIds.isTriggerId_eq hs]

private theorem counted_sublist (target port : String) :
    (v.counted r target port).Sublist (w.counted r target port) := by
  have hsame : v.counted r target port = (Editor.connectionsInto v target port).filter
      fun c ↦ !Editor.isTriggerId r w c.source := by
    apply List.filter_congr
    intro c hm
    rw [isTriggerId_source h hd hc hk (List.mem_of_mem_filter (List.mem_of_mem_filter hm))]
  rw [hsame]
  exact ((hc.filter _).filter _).filter _

private theorem withinLimits_of_fewer : v.WithinLimits r := by
  rintro ⟨id, tag⟩ hmem d hdef p hp hinput limit hlimit
  rcases List.eq_nil_or_concat (v.counted r id p.id) with hnil | ⟨_, c, hlast⟩
  · -- nothing comes in
    rw [hnil]
    exact Nat.zero_le _
  · have hcounted : c ∈ v.counted r id p.id := by rw [hlast]; simp
    have hinto := List.mem_of_mem_filter (List.mem_of_mem_filter hcounted)
    obtain ⟨hm, htarget⟩ := List.mem_filter.mp hinto
    have htypes : (id, tag) ∈ w.types :=
      mem_types_of_keepsEnds hd (h.wired c (hc.mem hm)) (hk c hm) (.inr (eq_of_beq htarget).symm)
        hmem
    exact (counted_sublist h hd hc hk id p.id).length_le.trans
      (h.limits _ htypes d hdef p hp hinput limit hlimit)

private theorem joins_of_fewer (a b : String) (hab : Joins (StepGraph.ofWorkflow v r).edges a b) :
    Joins (StepGraph.ofWorkflow w r).edges a b := by
  obtain ⟨ha, hb, c, hm, rfl, rfl⟩ := joins_ofWorkflow.mp hab
  have hw := h.wired c (hc.mem hm)
  obtain ⟨atag, hatypes, hat⟩ := mem_stepIds_iff_types.mp ha
  obtain ⟨btag, hbtypes, hbt⟩ := mem_stepIds_iff_types.mp hb
  refine joins_ofWorkflow.mpr ⟨?_, ?_, c, hc.mem hm, rfl, rfl⟩
  · exact mem_stepIds_iff_types.mpr
      ⟨atag, mem_types_of_keepsEnds hd hw (hk c hm) (.inl rfl) hatypes, hat⟩
  · exact mem_stepIds_iff_types.mpr
      ⟨btag, mem_types_of_keepsEnds hd hw (hk c hm) (.inr rfl) hbtypes, hbt⟩

/-- A workflow with some of the connections of a coherent one, and with the blocks at their ends, is
coherent, whatever its other blocks are. -/
theorem Coherent.of_fewer : v.Coherent r where
  blockIds := hd
  connectionIds := h.connectionIds.sublist (hc.map _)
  wired c hm := (h.wired c (hc.mem hm)).of_keepsEnds (hk c hm)
  limits := withinLimits_of_fewer h hd hc hk
  ends := h.ends.sublist hc
  irreflexive c hm := h.irreflexive c (hc.mem hm)
  acyclic := h.acyclic.mono (joins_of_fewer h hd hc hk)

end Fewer

/-! ### One more connection -/

/-- What has to hold of a connection that is added. -/
structure MayConnect (w : Workflow) (r : Registry) (c : Connection) : Prop where
  /-- Its id is a new one. -/
  id : c.id ∉ w.connections.map (·.id)
  /-- It joins ports that fit. -/
  wired : w.Wired r c
  /-- It joins different blocks. -/
  irreflexive : c.source ≠ c.target
  /-- No connection joins the same ports. -/
  ends : ∀ d ∈ w.connections, d.sameEnds c = false
  /-- Its input takes one more connection, unless it comes from a trigger. -/
  room : Editor.isTriggerId r w c.source = false → ∀ t ∈ w.types, t.1 = c.target →
    ∀ d ∈ r.get? t.2, ∀ p, d.input? c.targetPort = some p → ∀ limit ∈ p.limit?,
      (w.counted r c.target c.targetPort).length < limit
  /-- Its start does not come after its end. -/
  acyclic : Joins (StepGraph.ofWorkflow (w.connect c) r).edges c.source c.target →
    ¬ReflTransGen (Joins (StepGraph.ofWorkflow w r).edges) c.target c.source

theorem counted_connect (target port : String) :
    (w.connect c).counted r target port = w.counted r target port ++
      if c.target = target ∧ c.targetPort = port ∧ Editor.isTriggerId r w c.source = false
        then [c] else [] := by
  have htrigger (id : String) :
      Editor.isTriggerId r (w.connect c) id = Editor.isTriggerId r w id := rfl
  simp only [counted, Editor.connectionsInto, incoming, htrigger]
  simp only [connect, List.filter_append, List.filter_filter]
  congr 1
  by_cases ht : c.target = target <;> by_cases hp : c.targetPort = port <;>
    cases hs : Editor.isTriggerId r w c.source <;> simp [ht, hp, hs]

private theorem joins_connect (a b : String)
    (hab : Joins (StepGraph.ofWorkflow (w.connect c) r).edges a b) :
    Joins (StepGraph.ofWorkflow w r).edges a b ∨ a = c.source ∧ b = c.target := by
  obtain ⟨ha, hb, d, hm, rfl, rfl⟩ := joins_ofWorkflow.mp hab
  rcases List.mem_append.mp hm with hm | hm
  · exact .inl (joins_ofWorkflow.mpr ⟨ha, hb, d, hm, rfl, rfl⟩)
  · rw [List.mem_singleton.mp hm]
    exact .inr ⟨rfl, rfl⟩

private theorem acyclic_connect (h : w.Coherent r) (hc : w.MayConnect r c) :
    (StepGraph.ofWorkflow (w.connect c) r).Acyclic := by
  by_cases hjoin : Joins (StepGraph.ofWorkflow (w.connect c) r).edges c.source c.target
  · exact h.acyclic.of_joins joins_connect (hc.acyclic hjoin)
  · -- the connection starts or ends at a trigger, so the steps are joined as before
    refine h.acyclic.mono fun a b hab ↦ (joins_connect a b hab).resolve_right ?_
    rintro ⟨rfl, rfl⟩
    exact hjoin hab

private theorem withinLimits_connect (h : w.Coherent r) (hc : w.MayConnect r c) :
    (w.connect c).WithinLimits r := by
  rintro ⟨id, tag⟩ hmem d hdef p hp hinput limit hlimit
  have hold : (w.counted r id p.id).length ≤ limit :=
    h.limits _ hmem d hdef p hp hinput limit hlimit
  rw [counted_connect, List.length_append]
  split
  · next hnew =>
    obtain ⟨rfl, hport, hstep⟩ := hnew
    have hlt := hc.room hstep _ hmem rfl d hdef p (hport ▸ hinput) limit hlimit
    rw [hport] at hlt
    exact Nat.succ_le_of_lt hlt
  · rw [List.length_nil]
    omega

/-- A connection that breaks no rule keeps a workflow coherent. -/
theorem Coherent.connect (h : w.Coherent r) (hc : w.MayConnect r c) : (w.connect c).Coherent r where
  blockIds := h.blockIds
  connectionIds := by
    rw [Workflow.connect, List.map_append, List.map_singleton]
    refine h.connectionIds.append (List.nodup_singleton _) fun id hid hnew ↦ ?_
    rw [List.mem_singleton.mp hnew] at hid
    exact hc.id hid
  wired d hm := by
    rcases List.mem_append.mp hm with hm | hm
    · exact h.wired d hm
    · rw [List.mem_singleton.mp hm]
      exact hc.wired
  limits := withinLimits_connect h hc
  ends := by
    refine List.pairwise_append.mpr ⟨h.ends, List.pairwise_singleton _ _, fun d hm e he ↦ ?_⟩
    rw [List.mem_singleton.mp he]
    exact hc.ends d hm
  irreflexive d hm := by
    rcases List.mem_append.mp hm with hm | hm
    · exact h.irreflexive d hm
    · rw [List.mem_singleton.mp hm]
      exact hc.irreflexive
  acyclic := acyclic_connect h hc

end Workflow

end Blockflow
