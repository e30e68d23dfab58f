import Blockflow.Block.Catalog
import Blockflow.Proofs.Workflow.Coherence
import Blockflow.Proofs.Workflow.First

/-!
# Editing keeps a workflow coherent

A connection that has passed every check breaks no rule: the search for a way back finds every path
among the steps. So each change that is made keeps a workflow coherent, and any number of them do.
-/

namespace Blockflow

open Relation Blockflow.Graph

namespace Editor

open Workflow

variable {r : Registry} {w : Workflow} {source sourcePort target targetPort : String} {e : Ends}

/-! ### The search for a way back -/

/-- The connections that the search follows: those that lead to no trigger. -/
def followed (r : Registry) (w : Workflow) : List (String × String) :=
  (w.connections.filter fun c ↦ !isTriggerId r w c.target).map fun c ↦ (c.source, c.target)

private theorem successors_followed (id : String) :
    successors (followed r w) id = (w.dependents id).filter fun t ↦ !isTriggerId r w t := by
  simp only [successors, followed, dependents, outgoing, List.filter_map, List.map_map,
    List.filter_filter, Function.comp_def]
  simp only [Bool.and_comm]

/-- A block is found to come after another one exactly if a path leads from the other one to it. -/
theorem comesAfter_iff {id other : String} :
    comesAfter r w id other = true ↔ ReflTransGen (Joins (followed r w)) other id := by
  have hnext : (fun x ↦ (w.dependents x).filter fun t ↦ !isTriggerId r w t) =
      successors (followed r w) := (funext successors_followed).symm
  have hfuel : [other].length + (followed r w).length ≤ w.connections.length + 2 := by
    have hlen := List.length_filter_le (fun c : Connection ↦ !isTriggerId r w c.target)
      w.connections
    simp only [followed, List.length_map, List.length_singleton]
    omega
  rw [comesAfter, hnext, List.contains_iff_mem, mem_reachFrom hfuel]
  simp

/-- The search follows every path among the steps. -/
private theorem joins_followed (hd : w.DistinctIds) (a b : String)
    (h : Joins (StepGraph.ofWorkflow w r).edges a b) : Joins (followed r w) a b := by
  obtain ⟨-, hb, c, hc, rfl, rfl⟩ := joins_ofWorkflow.mp h
  obtain ⟨tag, htypes, ht⟩ := mem_stepIds_iff_types.mp hb
  rw [← hd.isTriggerId_eq htypes] at ht
  exact List.mem_map.mpr ⟨c, List.mem_filter.mpr ⟨hc, by simpa using ht⟩, rfl⟩

/-! ### The checks -/

/-- The ends of a connection are found exactly if it joins ports that fit. -/
theorem ends_eq_ok_iff : ends r w source sourcePort target targetPort = .ok e ↔
    ∃ s t, w.block? source = some s ∧ w.block? target = some t ∧
      r.get? s.tag = some e.source ∧ r.get? t.tag = some e.target ∧
      e.target.input? targetPort = some e.input ∧
      ∃ o, e.source.output? sourcePort = some o ∧ o.type.feeds e.input.type = true := by
  constructor
  · intro h
    obtain ⟨s, hs, h⟩ := except_bind_eq_ok.mp h
    obtain ⟨t, ht, h⟩ := except_bind_eq_ok.mp h
    obtain ⟨sourceDef, hsource, h⟩ := except_bind_eq_ok.mp h
    obtain ⟨targetDef, htarget, h⟩ := except_bind_eq_ok.mp h
    rw [block_eq_ok] at hs ht
    rw [definition_eq_ok] at hsource htarget
    split at h
    · cases h
    · next o ho =>
      split at h
      · cases h
      · next i hi =>
        split at h
        · next hfeeds =>
          obtain rfl := Except.ok.inj h
          exact ⟨s, t, hs, ht, hsource, htarget, hi, o, ho, hfeeds⟩
        · cases h
  · rintro ⟨s, t, hs, ht, hsource, htarget, hi, o, ho, hfeeds⟩
    refine except_bind_eq_ok.mpr ⟨s, block_eq_ok.mpr hs, except_bind_eq_ok.mpr ⟨t,
      block_eq_ok.mpr ht, except_bind_eq_ok.mpr ⟨e.source, definition_eq_ok.mpr hsource,
        except_bind_eq_ok.mpr ⟨e.target, definition_eq_ok.mpr htarget, ?_⟩⟩⟩⟩
    simp only [ho, hi, hfeeds, if_true]
    rfl

/-- What has passed every check. -/
structure Passes (r : Registry) (w : Workflow) (e : Ends)
    (source sourcePort target targetPort : String) : Prop where
  /-- The blocks are different ones. -/
  irreflexive : source ≠ target
  /-- No connection joins the same ports. -/
  ends : ∀ d ∈ w.connections, ¬(d.source = source ∧ d.sourcePort = sourcePort ∧
    d.target = target ∧ d.targetPort = targetPort)
  /-- The input takes one more connection, unless it comes from a trigger. -/
  room : e.source.isTrigger = false → ∀ limit ∈ e.input.limit?,
    (w.counted r target targetPort).length < limit
  /-- The start does not come after the end, unless one of them is a trigger. -/
  acyclic : e.source.isTrigger = false → e.target.isTrigger = false →
    comesAfter r w source target = false

private theorem guard_bind_eq_ok {c : Prop} [Decidable c] {error : EditError}
    {next : Unit → Except EditError Unit} {rest : Except EditError Unit} :
    (if c then throw error >>= next else rest) = .ok () ↔ ¬c ∧ rest = .ok () := by
  by_cases hc : c <;> simp [hc, throw, throwThe, MonadExceptOf.throw, bind, Except.bind]

/-- A connection is not refused exactly if it passes every check. -/
theorem checkConnection_eq_ok_iff :
    checkConnection r w e source sourcePort target targetPort = .ok () ↔
      Passes r w e source sourcePort target targetPort := by
  have hchecks : checkConnection r w e source sourcePort target targetPort = .ok () ↔
      source ≠ target ∧
      ((connectionsInto w target targetPort).any fun c ↦
        c.source == source && c.sourcePort == sourcePort) = false ∧
      (∀ limit ∈ e.input.limit?, e.source.isTrigger = false →
        isFull r w (connectionsInto w target targetPort) limit = false) ∧
      (e.source.isTrigger = false → e.target.isTrigger = false →
        comesAfter r w source target = false) := by
    cases hlimit : e.input.limit? <;>
      simp [checkConnection, hlimit, guard_bind_eq_ok, pure, Except.pure]
  have hnew : ((connectionsInto w target targetPort).any fun c ↦
      c.source == source && c.sourcePort == sourcePort) = false ↔
      ∀ d ∈ w.connections, ¬(d.source = source ∧ d.sourcePort = sourcePort ∧
        d.target = target ∧ d.targetPort = targetPort) := by
    simp only [connectionsInto, incoming, List.filter_filter, List.any_eq_false, List.mem_filter,
      Bool.and_eq_true, beq_iff_eq]
    exact forall_congr' fun d ↦ by tauto
  have hroom (limit : Nat) : isFull r w (connectionsInto w target targetPort) limit = false ↔
      (w.counted r target targetPort).length < limit := by simp [isFull, counted]
  simp only [hchecks, hnew, hroom]
  constructor
  · rintro ⟨hne, hdiffers, hlimits, hacyclic⟩
    exact ⟨hne, hdiffers, fun hs limit hlimit ↦ hlimits limit hlimit hs, hacyclic⟩
  · rintro ⟨hne, hdiffers, hlimits, hacyclic⟩
    exact ⟨hne, hdiffers, fun limit hlimit hs ↦ hlimits hs limit hlimit, hacyclic⟩

end Editor

namespace Workflow

open Editor

variable {r : Registry} {w v : Workflow} {b : Block} {c : Connection} {id : String}

/-- A connection with a new id that has passed every check breaks no rule. -/
theorem Coherent.mayConnect (h : w.Coherent r) {e : Ends} (hid : c.id ∉ w.connections.map (·.id))
    (hends : Editor.ends r w c.source c.sourcePort c.target c.targetPort = .ok e)
    (hcheck : checkConnection r w e c.source c.sourcePort c.target c.targetPort = .ok ()) :
    w.MayConnect r c := by
  obtain ⟨s, t, hs, ht, hsource, htarget, hinput, o, ho, hfeeds⟩ := ends_eq_ok_iff.mp hends
  have hpasses := checkConnection_eq_ok_iff.mp hcheck
  obtain ⟨hsmem, hsid⟩ := h.blockIds.block?_eq_some.mp hs
  obtain ⟨htmem, htid⟩ := h.blockIds.block?_eq_some.mp ht
  have hstypes : (c.source, s.tag) ∈ w.types := mem_types.mpr ⟨s, hsmem, hsid, rfl⟩
  have httypes : (c.target, t.tag) ∈ w.types := mem_types.mpr ⟨t, htmem, htid, rfl⟩
  have hstrigger : r.isTrigger s.tag = e.source.isTrigger := Registry.isTrigger_of_get? hsource
  have httrigger : r.isTrigger t.tag = e.target.isTrigger := Registry.isTrigger_of_get? htarget
  refine ⟨hid, ⟨_, hstypes, _, httypes, rfl, rfl, ?_⟩, hpasses.irreflexive, ?_, ?_, ?_⟩
  · exact Registry.feeds_iff.mpr
      ⟨_, hsource, _, htarget, o, ho, e.input, hinput, hfeeds⟩
  · intro d hd
    have hdiffers := hpasses.ends d hd
    rw [Bool.eq_false_iff]
    intro hsame
    simp only [Connection.sameEnds, Bool.and_eq_true, beq_iff_eq, and_assoc] at hsame
    exact hdiffers hsame
  · rintro hstep ⟨_, tag⟩ hmem rfl d hd p hp limit hlimit
    obtain rfl := h.blockIds.eq_of_mem_types hmem httypes
    obtain rfl := Option.some.inj (htarget.symm.trans hd)
    obtain rfl := Option.some.inj (hinput.symm.trans hp)
    rw [h.blockIds.isTriggerId_eq hstypes, hstrigger] at hstep
    exact hpasses.room hstep limit hlimit
  · intro hjoins hpath
    obtain ⟨hsstep, htstep, -⟩ := joins_ofWorkflow.mp hjoins
    have hs' := (h.blockIds.mem_stepIds_iff hstypes).mp hsstep
    have ht' := (h.blockIds.mem_stepIds_iff httypes).mp htstep
    have hnone := hpasses.acyclic (hstrigger ▸ hs') (httrigger ▸ ht')
    have hback := ReflTransGen.mono (joins_followed h.blockIds) _ _ hpath
    rw [comesAfter_iff.mpr hback] at hnone
    cases hnone

/-! ### One change -/

private theorem coherent_append (h : w.Coherent r) (hid : b.id ∉ w.blocks.map (·.id)) :
    (w.append b).Coherent r := by
  refine h.of_fewer ?_ (List.Sublist.refl _) ?_
  · simp only [DistinctIds, append, List.map_append, List.map_singleton]
    refine List.Nodup.append h.blockIds (List.nodup_singleton _) fun id hold hnew ↦ ?_
    rw [List.mem_singleton.mp hnew] at hold
    exact hid hold
  · intro c _ e he _
    simp only [types, append, List.map_append]
    exact List.mem_append_left _ he

private theorem coherent_removeBlock (h : w.Coherent r) (id : String) :
    (w.removeBlock id).Coherent r := by
  refine h.of_fewer ?_ List.filter_sublist ?_
  · exact h.blockIds.sublist (List.eraseP_sublist.map _)
  · rintro c hc ⟨other, tag⟩ he hend
    -- the block that is gone is at no end of a connection that is left
    have htouches : c.touches id = false := by simpa using (List.mem_filter.mp hc).2
    simp only [Connection.touches, Bool.or_eq_false_iff, beq_eq_false_iff_ne] at htouches
    obtain ⟨b, hb, rfl, rfl⟩ := mem_types.mp he
    have hne : b.id ≠ id := by
      rintro rfl
      exact hend.elim (fun h ↦ htouches.1 h.symm) (fun h ↦ htouches.2 h.symm)
    have hkept : b ∈ (w.removeBlock id).blocks :=
      (List.mem_eraseP_of_neg (by simpa using hne)).mpr hb
    exact mem_types.mpr ⟨b, hkept, rfl, rfl⟩

private theorem coherent_changeBlock (h : w.Coherent r) {f : Block → Block}
    (hid : ∀ b, (f b).id = b.id) (htag : ∀ b, (f b).tag = b.tag) :
    (w.changeBlock id f).Coherent r := by
  refine h.of_fewer ?_ (List.Sublist.refl _) ?_
  · have hids : (w.changeBlock id f).blocks.map (·.id) = w.blocks.map (·.id) :=
      map_changeFirst hid _
    rw [DistinctIds, hids]
    exact h.blockIds
  · intro c _ e he _
    have htypes : (w.changeBlock id f).types = w.types :=
      map_changeFirst (fun b ↦ by rw [hid, htag]) _
    rwa [htypes]

private theorem coherent_removeConnection (h : w.Coherent r) (id : String) :
    (w.removeConnection id).Coherent r :=
  h.of_fewer h.blockIds List.eraseP_sublist fun _ _ _ he _ ↦ he

/-- A change that is made keeps a workflow coherent. -/
theorem Coherent.changes (h : w.Coherent r) (hc : w.Changes r v) : v.Coherent r := by
  cases hc with
  | append b hid _ => exact coherent_append h hid
  | removeBlock id => exact coherent_removeBlock h id
  | changeBlock id f hid htag _ => exact coherent_changeBlock h hid htag
  | connect c e hid hends hcheck => exact h.connect (h.mayConnect hid hends hcheck)
  | removeConnection id => exact coherent_removeConnection h id

/-! ### Any number of changes -/

/-- A coherent workflow stays coherent, whatever changes are asked for, and whatever numbers their
ids are taken from. -/
theorem coherent_edited (r : Registry) (w : Workflow) (h : w.Coherent r)
    (calls : List (EditCall × Nat)) : (w.edited r calls).Coherent r :=
  edited_induction (p := fun v ↦ v.Coherent r) h (fun _ _ hv hc ↦ hv.changes hc) calls

/-- A workflow of a trigger and two steps one after the other. -/
private def chained : Workflow :=
  let block (id : String) (kind : Kind) : Block := ⟨id, kind.tag, .origin, .empty, none⟩
  { id := "wf", name := "CI", description := ""
    blocks := [block "t" .triggerPush, block "a" .jobCheckout, block "b" .jobLint]
    connections := [⟨"1", "t", "out", "a", "in"⟩, ⟨"2", "a", "out", "b", "in"⟩] }

theorem coherent_edited_chained : chained.Coherent .builtin ∧
    (chained.edited .builtin
      [(.addConnection "b" "out" "a" "in", 0), (.duplicateBlock "b", 7),
        (.removeBlock "b", 7), (.addConnection "a" "out" "block-000000000007" "in", 1)]).Coherent
      .builtin :=
  have h : chained.Coherent .builtin := by decide +kernel
  ⟨h, coherent_edited .builtin chained h _⟩

end Workflow

end Blockflow
